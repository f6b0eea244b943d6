import Mathlib.Data.List.DropRight
import Mathlib.Data.List.Induction
import Mathlib.Tactic.Lemma
import MetadataBag.Proofs.Codec.SinglePass
import MetadataBag.Proofs.Store.Kept

/-!
A store against its history. Calls come to events: a text is written under a name, or a name is
cleared; a replacement clears first. What a name holds, where it stands and which prefix it shows
is then read off the list of events alone.
-/

namespace MetadataBag.Store

inductive Call where
  | add (n : Name) (value : Option String)
  | set (n : Name) (value : Option String)
  | remove (n : Name)

def call (s : Store) : Call → Store
  | .add n value => s.add n value
  | .set n value => s.set n value
  | .remove n => s.remove n

def after (codec : Codec) (cs : List Call) : Store := cs.foldl call (empty codec)

inductive Event where
  | write (n : Name) (value : String)
  | clear (n : Name)

abbrev History := List Event

def Call.events : Call → History
  | .add n value => (value.map (Event.write n)).toList
  | .set n value => .clear n :: (value.map (Event.write n)).toList
  | .remove n => [.clear n]

def history (cs : List Call) : History := cs.flatMap Call.events

namespace Event

def clears (k : ExpandedName) : Event → Bool
  | .write _ _ => false
  | .clear n => n.toExpandedName = k

def textFor? (k : ExpandedName) : Event → Option String
  | .write n value => if n.toExpandedName = k then some value else none
  | .clear _ => none

end Event

namespace History

/-- The texts written under a name since it was last cleared. -/
def texts (h : History) (k : ExpandedName) : List String :=
  (h.rtakeWhile fun e => !e.clears k).filterMap (Event.textFor? k)

/-- At this moment a name goes from no text to some. -/
def Opens (h : History) (k : ExpandedName) (i : Nat) : Prop :=
  texts (h.take i) k = [] ∧ texts (h.take (i + 1)) k ≠ []

def OpensLast (h : History) (k : ExpandedName) (i : Nat) : Prop :=
  h.Opens k i ∧ ∀ j, h.Opens k j → j ≤ i

variable {h : History} {e : Event} {n : Name} {k : ExpandedName} {i : Nat}

lemma texts_concat_write (value : String) : texts (h ++ [.write n value]) k =
    if n.toExpandedName = k then texts h k ++ [value] else texts h k := by
  unfold texts
  rw [List.rtakeWhile_concat_pos _ _ _ (by simp [Event.clears]), List.filterMap_append]
  by_cases hk : n.toExpandedName = k <;> simp [Event.textFor?, hk]

lemma texts_concat_clear : texts (h ++ [.clear n]) k =
    if n.toExpandedName = k then [] else texts h k := by
  unfold texts
  rw [List.rtakeWhile_concat]
  by_cases hk : n.toExpandedName = k <;> simp [Event.clears, Event.textFor?, hk]

lemma Opens.lt_length (ho : h.Opens k i) : i < h.length := by
  by_contra hi
  obtain ⟨hnone, hsome⟩ := ho
  rw [List.take_of_length_le (by omega)] at hnone hsome
  exact hsome hnone

/-- A further event opens nothing before it. -/
lemma opens_concat : (h ++ [e]).Opens k i ↔
    h.Opens k i ∨ (i = h.length ∧ texts h k = [] ∧ texts (h ++ [e]) k ≠ []) := by
  rcases Nat.lt_trichotomy i h.length with hi | rfl | hi
  · have hne : i ≠ h.length := by omega
    unfold Opens
    rw [List.take_append_of_le_length (by omega), List.take_append_of_le_length (by omega)]
    simp [hne]
  · have hold : ¬ h.Opens k h.length := fun ho => absurd ho.lt_length (by omega)
    have hstart : (h ++ [e]).take h.length = h := List.take_left
    have hwhole : (h ++ [e]).take (h.length + 1) = h ++ [e] := List.take_of_length_le (by simp)
    rw [or_iff_right hold]
    unfold Opens
    rw [hstart, hwhole]
    simp
  · have hold : ¬ h.Opens k i := fun ho => absurd ho.lt_length (by omega)
    have hnew : ¬ (h ++ [e]).Opens k i := fun ho => by
      have := ho.lt_length
      simp at this
      omega
    have hne : i ≠ h.length := by omega
    simp [hold, hnew, hne]

lemma opensLast_concat_of_opened (hnone : texts h k = []) (hsome : texts (h ++ [e]) k ≠ []) :
    (h ++ [e]).OpensLast k i ↔ i = h.length := by
  have hnow : (h ++ [e]).Opens k h.length := opens_concat.mpr (Or.inr ⟨rfl, hnone, hsome⟩)
  constructor
  · rintro ⟨ho, hlast⟩
    have hle := hlast _ hnow
    have hlt := ho.lt_length
    simp at hlt
    omega
  · rintro rfl
    refine ⟨hnow, fun j hj => ?_⟩
    have hlt := hj.lt_length
    simp at hlt
    omega

lemma opensLast_concat_of_not_opened (hno : texts h k = [] → texts (h ++ [e]) k = []) :
    (h ++ [e]).OpensLast k i ↔ h.OpensLast k i := by
  have hiff : ∀ j, (h ++ [e]).Opens k j ↔ h.Opens k j := by
    intro j
    rw [opens_concat]
    exact ⟨fun ho => ho.resolve_right fun hn => hn.2.2 (hno hn.2.1), Or.inl⟩
  simp [OpensLast, hiff]

end History

/-! ### Replaying -/

def perform (s : Store) : Event → Store
  | .write n value => s.put n value
  | .clear n => s.remove n

def replay (codec : Codec) (h : History) : Store := h.foldl perform (empty codec)

@[simp] lemma replay_concat (codec : Codec) (h : History) (e : Event) :
    replay codec (h ++ [e]) = (replay codec h).perform e := by
  simp [replay]

lemma call_eq_foldl_perform (s : Store) (c : Call) : s.call c = c.events.foldl perform s := by
  rcases c with ⟨n, _ | value⟩ | ⟨n, _ | value⟩ | n <;> rfl

lemma after_eq_replay (codec : Codec) (cs : List Call) :
    after codec cs = replay codec (history cs) := by
  induction cs using List.reverseRecOn with
  | nil => rfl
  | append_singleton cs c ih =>
    rw [after, List.foldl_append, List.foldl_cons, List.foldl_nil, ← after, ih,
      call_eq_foldl_perform]
    simp [replay, history, List.foldl_append]

lemma codec_replay (codec : Codec) (h : History) : (replay codec h).codec = codec := by
  induction h using List.reverseRecOn with
  | nil => rfl
  | append_singleton h e ih => cases e <;> simpa [perform] using ih

/-- A slot keeps, escaped, what was written since the last clearing. -/
lemma kept_replay (codec : Codec) (h : History) (k : ExpandedName) :
    (replay codec h).kept k = (h.texts k).map codec.escape := by
  induction h using List.reverseRecOn with
  | nil => rfl
  | append_singleton h e ih =>
    rw [replay_concat]
    cases e with
    | write n value =>
      rw [perform, kept_put, ih, codec_replay, History.texts_concat_write]
      split <;> simp
    | clear n =>
      rw [perform, kept_remove, ih, History.texts_concat_clear]
      split <;> simp

lemma kept_replay_eq_nil_iff {codec : Codec} {h : History} {k : ExpandedName} :
    (replay codec h).kept k = [] ↔ h.texts k = [] := by
  rw [kept_replay, List.map_eq_nil_iff]

/-- Names stand in the order in which they were opened, and as they were then written. -/
structure InOrder (names : List Name) (h : History) : Prop where
  ascending : names.Pairwise fun m n => ∀ i j,
    h.OpensLast m.toExpandedName i → h.OpensLast n.toExpandedName j → i < j
  opened : ∀ n ∈ names, ∃ i value, h.OpensLast n.toExpandedName i ∧ h[i]? = some (.write n value)

/-- An event that opens no name of a list leaves the list in order. -/
lemma InOrder.concat {names : List Name} {h : History} (ho : InOrder names h) {e : Event}
    (hno : ∀ n ∈ names, h.texts n.toExpandedName = [] →
      History.texts (h ++ [e]) n.toExpandedName = []) :
    InOrder names (h ++ [e]) := by
  constructor
  · refine ho.ascending.imp_of_mem fun {m n} hm hn hmn i j hi hj => hmn i j ?_ ?_
    · exact (History.opensLast_concat_of_not_opened (hno m hm)).mp hi
    · exact (History.opensLast_concat_of_not_opened (hno n hn)).mp hj
  · intro n hn
    obtain ⟨i, value, hlast, hi⟩ := ho.opened n hn
    refine ⟨i, value, (History.opensLast_concat_of_not_opened (hno n hn)).mpr hlast, ?_⟩
    rw [List.getElem?_append_left hlast.1.lt_length, hi]

lemma slotNames_inOrder (codec : Codec) (h : History) :
    InOrder (replay codec h).slotNames h := by
  induction h using List.reverseRecOn with
  | nil => exact ⟨List.Pairwise.nil, by simp [replay, empty, slotNames, OrderedMap.empty]⟩
  | append_singleton h e ih =>
    -- a name that is listed has texts, so only a name that is not listed can be opened
    have hfull : ∀ n ∈ (replay codec h).slotNames, History.texts h n.toExpandedName ≠ [] :=
      fun n hn => kept_replay_eq_nil_iff.not.mp (mem_slotNames_kept _ hn)
    have hsame : InOrder (replay codec h).slotNames (h ++ [e]) :=
      ih.concat fun n hn hnone => absurd hnone (hfull n hn)
    rw [replay_concat]
    cases e with
    | clear n =>
      rw [perform, slotNames_remove]
      exact ⟨hsame.ascending.filter _, fun m hm => hsame.opened m (List.mem_of_mem_filter hm)⟩
    | write n value =>
      rw [perform, slotNames_put]
      split
      · rename_i hempty
        have hnone := kept_replay_eq_nil_iff.mp hempty
        have hnow : ∀ i, History.OpensLast (h ++ [Event.write n value]) n.toExpandedName i ↔
            i = h.length := fun i =>
          History.opensLast_concat_of_opened hnone (by simp [History.texts_concat_write])
        constructor
        · refine List.pairwise_append.mpr ⟨hsame.ascending, List.pairwise_singleton _ _, ?_⟩
          intro m hm _ hn i j hi hj
          rw [List.mem_singleton.mp hn, hnow] at hj
          obtain ⟨i', value', hlast, -⟩ := ih.opened m hm
          rw [History.opensLast_concat_of_not_opened fun hm' => absurd hm' (hfull m hm)] at hi
          have := hi.1.lt_length
          omega
        · intro m hm
          rcases List.mem_append.mp hm with hm | hm
          · exact hsame.opened m hm
          · rw [List.mem_singleton.mp hm]
            exact ⟨h.length, value, (hnow _).mpr rfl, by simp⟩
      · exact hsame

/-- **A store is its history.** After any calls a name holds the texts that were written under
it since it was last cleared, and the names stand in the order in which each was last opened,
with the prefix of the write that opened it. -/
theorem after_reflects_history (codec : Codec) (cs : List Call) :
    (∀ n : Name,
      (after codec cs).getAll n = (history cs).texts n.toExpandedName ∧
      (after codec cs).get? n = ((history cs).texts n.toExpandedName).head? ∧
      (after codec cs).count n = ((history cs).texts n.toExpandedName).length) ∧
    ((after codec cs).slotNames.map Name.toExpandedName).Nodup ∧
    (∀ k, k ∈ (after codec cs).slotNames.map Name.toExpandedName ↔ (history cs).texts k ≠ []) ∧
    ((after codec cs).slotNames.Pairwise fun m n => ∀ i j,
      (history cs).OpensLast m.toExpandedName i → (history cs).OpensLast n.toExpandedName j →
        i < j) ∧
    ∀ n ∈ (after codec cs).slotNames, ∃ i value,
      (history cs).OpensLast n.toExpandedName i ∧ (history cs)[i]? = some (.write n value) := by
  rw [after_eq_replay]
  have hdecode : ∀ l : List String, (l.map codec.escape).map codec.unescape = l := by
    simp [Function.comp_def]
  have horder := slotNames_inOrder codec (history cs)
  refine ⟨fun n => ⟨?_, ?_, ?_⟩, ?_, fun k => ?_, horder.ascending, horder.opened⟩
  · rw [getAll_eq, kept_replay, codec_replay, hdecode]
  · rw [get?_eq, kept_replay, codec_replay, ← List.head?_map, hdecode]
  · rw [count_eq, kept_replay, List.length_map]
  · rw [map_slotNames]
    exact nodup_keys _
  · rw [map_slotNames, mem_keys_iff]
    exact kept_replay_eq_nil_iff.not

end MetadataBag.Store
