import Mathlib.Tactic.Lemma
import MetadataBag.Proofs.Bag.Congruence
import MetadataBag.Proofs.Store.Reading

/-!
Equal bags cannot be told apart. Bags that read alike and share a zone answer every read alike,
refuse the same writes for the same reason, and read alike again after each; so they do after
every run, however their codecs, orders and bound prefixes differ.
-/

namespace MetadataBag

namespace Bag

/-- Two bags that read alike and tell dates in the same zone. -/
structure Alike (a b : Bag) : Prop where
  reading : a.store.reading = b.store.reading
  zone : a.zone = b.zone

structure ReadsLike (r : Registry) (a b : Bag) : Prop where
  get? : ∀ k, a.get? r k = b.get? r k
  getAll : ∀ k, a.getAll r k = b.getAll r k
  getInt : ∀ p, a.getInt r p = b.getInt r p
  getDate : ∀ p, a.getDate r p = b.getDate r p
  isMultiValued : ∀ k, a.isMultiValued r k = b.isMultiValued r k
  contains : ∀ k, a.contains r k = b.contains r k

def failures (r : Registry) : Bag → List Write → List (Option Error)
  | _, [] => []
  | b, w :: ws => (b.write r w).failure :: failures r (b.write r w).bag ws

end Bag

structure Outcome.Alike (o o' : Outcome) : Prop where
  failure : o.failure = o'.failure
  bag : o.bag.Alike o'.bag

namespace Bag

variable {a b : Bag} {r : Registry}

namespace Alike

lemma refl (b : Bag) : b.Alike b := ⟨rfl, rfl⟩

lemma trans {c : Bag} (h : a.Alike b) (h' : b.Alike c) : a.Alike c :=
  ⟨h.reading.trans h'.reading, h.zone.trans h'.zone⟩

/-! ### Reads -/

lemma get? (h : a.Alike b) (k : Option Key) : a.get? r k = b.get? r k := by
  rcases k with _ | k
  · rfl
  · rw [Bag.get?, Bag.get?, Store.get?_eq_reading, Store.get?_eq_reading, h.reading]

lemma getAll (h : a.Alike b) (k : Option Key) : a.getAll r k = b.getAll r k := by
  rcases k with _ | k
  · rfl
  · rw [Bag.getAll, Bag.getAll, Store.getAll_eq_reading, Store.getAll_eq_reading, h.reading]

lemma isMultiValued (h : a.Alike b) (k : Option Key) :
    a.isMultiValued r k = b.isMultiValued r k := by
  rcases k with _ | k
  · rfl
  · rw [Bag.isMultiValued, Bag.isMultiValued, Store.count_eq_reading, Store.count_eq_reading,
      h.reading]

lemma readsLike (h : a.Alike b) : ReadsLike r a b where
  get? := h.get?
  getAll := h.getAll
  getInt p := by rw [getInt, getInt, h.get?]
  getDate p := by rw [getDate, getDate, h.get?, h.zone]
  isMultiValued := h.isMultiValued
  contains k := by rw [contains, contains, h.get?]

/-! ### Writes -/

/-- Bags that read alike fill the same slots, and go on reading alike. -/
lemma congruence : Congruence (fun _ => True) Bag.Alike where
  zone h := h.zone
  filled h _ := by rw [Store.get?_eq_reading, Store.get?_eq_reading, h.reading]
  put h _ value := ⟨by funext k; rw [Store.reading_put, Store.reading_put, h.reading], h.zone⟩
  remove h _ := ⟨by funext k; rw [Store.reading_remove, Store.reading_remove, h.reading], h.zone⟩

/-- **One write** is refused by both or by none, and leaves bags that read alike. -/
lemma write (h : a.Alike b) (w : Write) : (a.write r w).Alike (b.write r w) := by
  obtain ⟨hfailure, hbag⟩ := congruence.write h (w.within_true r)
  exact ⟨hfailure, hbag⟩

lemma run (h : a.Alike b) (ws : List Write) :
    a.failures r ws = b.failures r ws ∧ (a.run r ws).Alike (b.run r ws) := by
  induction ws generalizing a b with
  | nil => exact ⟨rfl, h⟩
  | cons w ws ih =>
    obtain ⟨hfailures, hbags⟩ := ih (h.write (r := r) w).bag
    exact ⟨congrArg₂ List.cons (h.write w).failure hfailures, hbags⟩

end Alike

lemma same_iff : a.same b = true ↔ a.store.reading = b.store.reading := Store.same_iff

/-- **Equal bags cannot be told apart.** Two stores are the same exactly if every name has the same
values in both. Of two bags that are the same and share a zone, both refuse a write for the same
reason or none does, and they are the same after it and after every run, where all reads agree. -/
theorem equal_bags_indistinguishable :
    (∀ s t : Store, s.same t = true ↔ ∀ n : Name, s.getAll n = t.getAll n) ∧
    ∀ (r : Registry) (a b : Bag), a.same b = true → a.zone = b.zone →
      ReadsLike r a b ∧
      (∀ w : Write, (a.write r w).failure = (b.write r w).failure ∧
        (a.write r w).bag.same (b.write r w).bag = true) ∧
      ∀ ws : List Write, a.failures r ws = b.failures r ws ∧
        (a.run r ws).same (b.run r ws) = true ∧ ReadsLike r (a.run r ws) (b.run r ws) := by
  refine ⟨fun s t => ?_, fun r a b hsame hzone => ?_⟩
  · rw [Store.same_iff]
    constructor
    · intro h n
      rw [Store.getAll_eq_reading, Store.getAll_eq_reading, h]
    · intro h
      funext k
      have hk := h { toExpandedName := k }
      rwa [Store.getAll_eq_reading, Store.getAll_eq_reading] at hk
  · have h : a.Alike b := ⟨same_iff.mp hsame, hzone⟩
    refine ⟨h.readsLike, fun w => ?_, fun ws => ?_⟩
    · exact ⟨(h.write w).failure, same_iff.mpr (h.write w).bag.reading⟩
    · obtain ⟨hfailures, hbags⟩ := h.run (r := r) ws
      exact ⟨hfailures, same_iff.mpr hbags.reading, hbags.readsLike⟩

def captionAs (pre : String) : Property :=
  .ofKey (pre ++ ":caption") (some "urn:caption") .text false false

def captioned : Bag :=
  (empty .markup .universal).run .empty
    [.add (some (.text "x")) (some "1 < 2"), .set (some (.property (captionAs "a"))) (.text "c")]

def recaptioned : Bag :=
  (empty .plain .universal).run .empty
    [.set (some (.property (captionAs "b"))) (.text "c"), .add (some (.text "x")) (some "1 < 2")]

def captionWrites : List Write :=
  [.add (some (.property (captionAs "b"))) (some "d"), .remove (some (.text "x"))]

theorem equal_bags_indistinguishable_caption :
    captioned.same recaptioned = true ∧ captioned.zone = recaptioned.zone ∧
    ReadsLike .empty captioned recaptioned ∧
    captioned.failures .empty captionWrites = recaptioned.failures .empty captionWrites ∧
    (captioned.run .empty captionWrites).same (recaptioned.run .empty captionWrites) = true ∧
    ReadsLike .empty (captioned.run .empty captionWrites)
      (recaptioned.run .empty captionWrites) := by
  have hsame : captioned.same recaptioned = true := by decide +kernel
  have hzone : captioned.zone = recaptioned.zone := rfl
  obtain ⟨hreads, -, hruns⟩ :=
    equal_bags_indistinguishable.2 .empty captioned recaptioned hsame hzone
  exact ⟨hsame, hzone, hreads, hruns captionWrites⟩

end Bag

end MetadataBag
