import MetadataBag.Proofs.Bag.Equality
import MetadataBag.Proofs.Bag.Transcript

/-!
Codecs cannot be seen. A bag under another codec keeps other texts, but has the same names in the
same order, the same bindings, and reads alike; and that is all that any operation goes by.
-/

namespace MetadataBag.Bag

/-- Two bags that are the same but for the form in which their values are kept. -/
structure Recoded (a b : Bag) : Prop where
  alike : a.Alike b
  slotNames : a.store.slotNames = b.store.slotNames
  namespaces : a.store.namespaces = b.store.namespaces

lemma recoded_empty (codec codec' : Codec) (zone : LocalZone) :
    (empty codec zone).Recoded (empty codec' zone) := ⟨⟨rfl, rfl⟩, rfl, rfl⟩

namespace Recoded

variable {a b : Bag} {r : Registry}

/-! ### Writes -/

lemma put (h : a.Recoded b) (n : Name) (value : String) :
    ({ a with store := a.store.put n value } : Bag).Recoded
      { b with store := b.store.put n value } := by
  refine ⟨Alike.congruence.put h.alike trivial value, ?_, ?_⟩
  · have hempty : a.store.kept n.toExpandedName = [] ↔ b.store.kept n.toExpandedName = [] := by
      rw [← Store.reading_eq_nil_iff, ← Store.reading_eq_nil_iff, h.alike.reading]
    rw [Store.slotNames_put, Store.slotNames_put, h.slotNames]
    simp only [hempty]
  · change a.store.namespaces.record n = b.store.namespaces.record n
    rw [h.namespaces]

lemma remove (h : a.Recoded b) (n : Name) :
    ({ a with store := a.store.remove n } : Bag).Recoded
      { b with store := b.store.remove n } := by
  refine ⟨Alike.congruence.remove h.alike trivial, ?_, h.namespaces⟩
  rw [Store.slotNames_remove, Store.slotNames_remove, h.slotNames]

lemma congruence : Congruence (fun _ => True) Recoded where
  zone h := h.alike.zone
  filled h _ := Alike.congruence.filled h.alike trivial
  put h _ value := h.put _ value
  remove h _ := h.remove _

/-! ### Reads -/

lemma items (h : a.Recoded b) : a.store.items = b.store.items := by
  rw [Store.items_eq, Store.items_eq, h.slotNames]
  refine List.map_congr_left fun n _ => ?_
  rw [Store.getAll_eq_reading, Store.getAll_eq_reading, h.alike.reading]

lemma names (h : a.Recoded b) : a.names = b.names := by
  rw [Bag.names, Bag.names, Store.names, Store.names, h.slotNames]

lemma tree (h : a.Recoded b) : Markup.Tree.ofStore a.store = Markup.Tree.ofStore b.store := by
  rw [Markup.Tree.ofStore, Markup.Tree.ofStore, h.namespaces, h.items]

lemma written (h : a.Recoded b) : Markup.shown a.store = Markup.shown b.store := by
  rw [Markup.shown, Markup.shown, Markup.text, Markup.text, h.tree]

lemma query (h : a.Recoded b) (expression : String) :
    XPath.query a.store expression = XPath.query b.store expression := by
  rw [XPath.query, XPath.query, h.tree, h.namespaces]

lemma answer (h : a.Recoded b) (q : Read) : a.answer r q = b.answer r q := by
  have hreads : ReadsLike r a b := h.alike.readsLike
  have hitems : a.items = b.items := by rw [Bag.items, Bag.items, h.items]
  cases q with
  | get? k => exact congrArg Answer.first (hreads.get? k)
  | getAll k => exact congrArg Answer.all (hreads.getAll k)
  | getInt p => exact congrArg Answer.number (hreads.getInt p)
  | getDate p => exact congrArg Answer.instant (hreads.getDate p)
  | isMultiValued k => exact congrArg Answer.truth (hreads.isMultiValued k)
  | contains k => exact congrArg Answer.truth (hreads.contains k)
  | names => exact congrArg Answer.all h.names
  | size => exact congrArg (fun l => Answer.count l.length) h.names
  | items => exact congrArg Answer.items hitems
  | namespaces => exact congrArg (fun ns => Answer.bindings ns.toList) h.namespaces
  | tree => exact congrArg Answer.tree h.tree
  | written => exact congrArg Answer.text h.written
  | query expression => exact congrArg Answer.found (h.query expression)
  | rendering f =>
    change Answer.found (f a.store.items a.store.namespaces.toList) =
      Answer.found (f b.store.items b.store.namespaces.toList)
    rw [h.items, h.namespaces]
  | text =>
    change Answer.text a.text = Answer.text b.text
    rw [Bag.text, Bag.text, hitems]

lemma perform (h : a.Recoded b) (r : Registry) (op : Operation) :
    (a.perform r op).1 = (b.perform r op).1 ∧ (a.perform r op).2.Recoded (b.perform r op).2 := by
  cases op with
  | write w =>
    obtain ⟨hfailure, hbags⟩ := congruence.write h (w.within_true r)
    exact ⟨congrArg Answer.outcome hfailure, hbags⟩
  | read q => exact ⟨h.answer q, h⟩

end Recoded

/-- **Codecs cannot be seen**: whatever is done with two empty bags in one zone, they give one
answer to every operation, refused writes among them, and are the same after each. -/
theorem codecs_cannot_be_seen (codec codec' : Codec) (zone : LocalZone)
    (ops : List (Registry × Operation)) :
    (empty codec zone).transcript ops = (empty codec' zone).transcript ops ∧
      ∀ i, ((empty codec zone).after (ops.take i)).same ((empty codec' zone).after (ops.take i)) =
        true := by
  have hempty := recoded_empty codec codec' zone
  refine ⟨(transcript_eq_of_related Recoded.perform hempty ops).1, fun i => ?_⟩
  have hend := (transcript_eq_of_related Recoded.perform hempty (ops.take i)).2
  exact same_iff.mpr hend.alike.reading

/-- The texts that the two keep are not the same. -/
example :
    ((empty .markup .universal : Bag).add .empty (some (.text "x")) (some "1 < 2")).bag.store.kept
        (Name.entry "x").toExpandedName = ["1 &lt; 2"] ∧
      ((empty .plain .universal : Bag).add .empty (some (.text "x")) (some "1 < 2")).bag.store.kept
        (Name.entry "x").toExpandedName = ["1 < 2"] := by
  decide +kernel

end MetadataBag.Bag
