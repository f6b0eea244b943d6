import MetadataBag.Proofs.Bag.Run
import MetadataBag.Proofs.Bag.Slots

/-!
Composites in step. Writes through a composite keep every secondary at what the primary holds:
at all of it, or at the last value if the secondary is for one value only.
-/

namespace MetadataBag

/-- The writes under one definition, but for its removal. -/
inductive Write.Through (c : Property) : Write → Prop where
  | add (value : Option String) : Through c (.add (some (.property c)) value)
  | set (value : Value) : Through c (.set (some (.property c)) value)
  | setInt (value : Option Int) : Through c (.setInt c value)
  | setReal (value : Option Quantity) : Through c (.setReal c value)
  | setDate (value : Option When) : Through c (.setDate c value)

lemma Write.Through.isBulk {c : Property} {w : Write} (h : w.Through c) : w.isBulk = false := by
  cases h <;> rfl

lemma Write.Through.key_eq {c : Property} {w : Write} (h : w.Through c) {k : Key}
    (hk : k ∈ w.keys) : k = .property c := by
  cases h with
  | add value =>
    rcases value with _ | value
    · cases hk
    · exact List.mem_singleton.mp hk
  | set | setInt | setReal | setDate => exact List.mem_singleton.mp hk

namespace Property

/-- What a secondary holds when the primary holds some values. -/
def follow (p : Property) (held : List String) : List String :=
  if p.multi then held else held.getLast?.toList

variable (p : Property) (held : List String)

@[simp] lemma follow_nil : p.follow [] = [] := by simp [follow]

lemma map_follow (f : String → String) : (p.follow held).map f = p.follow (held.map f) := by
  unfold follow
  split
  · rfl
  · rw [List.getLast?_map]
    cases held.getLast? <;> rfl

lemma take_follow (value : String) :
    p.take (p.follow held) value = p.follow (held ++ [value]) := by
  unfold take follow
  split
  · rfl
  · rw [List.getLast?_concat]
    rfl

variable {p held}

lemma follow_eq_self (h : 1 < held.length → p.multi = true) : p.follow held = held := by
  unfold follow
  split
  · rfl
  · rename_i hsingle
    match held with
    | [] => rfl
    | [_] => rfl
    | _ :: _ :: _ => exact absurd (h (by simp)) hsingle

end Property

namespace Bag

def InStep (r : Registry) (primary : Property) (secondaries : List Property) (b : Bag) : Prop :=
  ∀ s ∈ secondaries, b.store.kept (s.slot r) = s.follow (b.store.kept (primary.slot r))

variable {r : Registry} {b : Bag} {primary : Property} {secondaries : List Property}

lemma addTo_inStep (hslots : ((primary :: secondaries).map (·.slot r)).Nodup) (value : String)
    (hb : b.InStep r primary secondaries) :
    (b.addTo r (.composite primary secondaries) value).bag.InStep r primary secondaries := by
  rw [List.map_cons, List.nodup_cons] at hslots
  obtain ⟨hprimary, hsecondaries⟩ := hslots
  rw [addTo_composite]
  by_cases hfull : primary.multi = false ∧ b.store.kept (primary.slot r) ≠ []
  · rw [if_pos hfull, refuse_bag]
    exact hb
  · rw [if_neg hfull, done_bag]
    intro s hs
    have hne : primary.slot r ≠ s.slot r := fun e => hprimary (e ▸ List.mem_map_of_mem hs)
    -- the primary takes the value behind what it holds, and no secondary sees that
    have hself : (b.store.put ((Key.property primary).resolve r) value).kept (primary.slot r) =
        b.store.kept (primary.slot r) ++ [b.store.codec.escape value] := by
      rw [Store.kept_put, Key.toExpandedName_resolve, Key.slot_property, if_pos rfl]
    have hother : (b.store.put ((Key.property primary).resolve r) value).kept (s.slot r) =
        b.store.kept (s.slot r) := by
      rw [Store.kept_put, Key.toExpandedName_resolve, Key.slot_property, if_neg hne]
    rw [kept_foldl_addSecondary_of_mem hsecondaries hs,
      kept_foldl_addSecondary_of_not_mem hprimary]
    simp only [hself, hother, Store.codec_put]
    rw [hb s hs, Property.take_follow]

lemma assign_inStep (values : List String) (hb : b.InStep r primary secondaries) :
    (b.assign r (.property (.composite primary secondaries)) values).bag.InStep r primary
      secondaries := by
  have htargets : (Key.property (.composite primary secondaries)).targets r =
      (primary :: secondaries).map .property := rfl
  rcases assign_cases b r (.property (.composite primary secondaries)) values with
    heq | ⟨hfits, hkept⟩
  · rw [heq]
    exact hb
  rw [htargets] at hfits hkept
  have hreached : ∀ m ∈ primary :: secondaries,
      m.slot r ∈ ((primary :: secondaries).map Key.property).map (·.slot r) := fun m hm =>
    List.mem_map_of_mem (List.mem_map_of_mem hm)
  intro s hs
  have hs' : s ∈ primary :: secondaries := List.mem_cons_of_mem primary hs
  rw [hkept, hkept, if_pos (hreached s hs'), if_pos (hreached primary List.mem_cons_self)]
  -- all members hold the same values, several only where each of them permits it
  refine (Property.follow_eq_self fun hlen => ?_).symm
  rw [List.length_map] at hlen
  exact hfits hlen _ (List.mem_map_of_mem hs') s rfl

lemma write_inStep (hslots : ((primary :: secondaries).map (·.slot r)).Nodup) {w : Write}
    (hw : w.Through (.composite primary secondaries)) (hb : b.InStep r primary secondaries) :
    (b.write r w).bag.InStep r primary secondaries := by
  have he : Effect r b w (b.write r w) := write_effect hw.isBulk
  generalize b.write r w = o at he
  -- an entry, an added value and an assignment all go to the composite itself
  cases he with
  | ignored => exact hb
  | refused e => exact hb
  | entered hk =>
    obtain rfl := hw.key_eq List.mem_cons_self
    cases hk
  | @added k p value hk =>
    obtain rfl := hw.key_eq List.mem_cons_self
    cases hk
    exact addTo_inStep hslots value hb
  | @assigned _ k k' hwk hk values =>
    obtain rfl := hw.key_eq (hwk ▸ List.mem_cons_self)
    obtain rfl := Key.eq_of_names_property hk
    exact assign_inStep values hb
  | removed k => cases hw

/-- **Members of a composite stay in step**: after any writes through a composite whose members
have slots of their own, a secondary for several values holds what the primary holds, and a
secondary for one value the last of it. -/
theorem composite_members_stay_in_step (r : Registry) (codec : Codec) (zone : LocalZone)
    {primary c : Property} {secondaries : List Property}
    (hc : Property.compose primary secondaries = .ok c)
    (hslots : ((primary :: secondaries).map (·.slot r)).Nodup) {ws : List Write}
    (hws : ∀ w ∈ ws, w.Through c) {s : Property} (hs : s ∈ secondaries) :
    let b := (empty codec zone).run r ws
    b.getAll r (some (.property s)) =
      if s.multi then b.getAll r (some (.property primary))
      else (b.getAll r (some (.property primary))).getLast?.toList := by
  obtain rfl := Property.compose_eq hc
  have hempty : (empty codec zone).InStep r primary secondaries := fun s _ => by
    simp [empty]
  have hrun : ((empty codec zone).run r ws).InStep r primary secondaries :=
    run_preserves (fun values hv => by cases hv)
      (fun b w _ hw hb => write_inStep hslots hw hb) hempty hws
  intro b
  change b.store.getAll ((Key.property s).resolve r) =
    s.follow (b.store.getAll ((Key.property primary).resolve r))
  rw [Store.getAll_eq, Store.getAll_eq, ← Property.map_follow]
  exact congrArg _ (hrun s hs)

def original : Property := .ofKey "a" none .text false true
def latest : Property := .ofKey "b" none .text false false
def copied : Property := .ofKey "c" none .text false true

def copyWrites : List Write :=
  [ .add (some (.property (.composite original [latest, copied]))) (some "1 < 2"),
    .set (some (.property (.composite original [latest, copied]))) (.list [.text "3", .text "4"]),
    .add (some (.property (.composite original [latest, copied]))) (some "5") ]

theorem composite_members_stay_in_step_copies :
    Property.compose original [latest, copied] = .ok (.composite original [latest, copied]) ∧
    ([original, latest, copied].map (·.slot .empty)).Nodup ∧
    (∀ w ∈ copyWrites, w.Through (.composite original [latest, copied])) ∧
    let b := (empty .markup .universal).run .empty copyWrites
    b.getAll .empty (some (.property latest)) =
      if latest.multi then b.getAll .empty (some (.property original))
      else (b.getAll .empty (some (.property original))).getLast?.toList := by
  have hcompose : Property.compose original [latest, copied] =
      .ok (.composite original [latest, copied]) := rfl
  have hslots : ([original, latest, copied].map (·.slot .empty)).Nodup := by decide +kernel
  have hthrough : ∀ w ∈ copyWrites, w.Through (.composite original [latest, copied]) := by
    intro w hw
    simp only [copyWrites, List.mem_cons, List.not_mem_nil, or_false] at hw
    rcases hw with rfl | rfl | rfl
    exacts [.add _, .set _, .add _]
  exact ⟨hcompose, hslots, hthrough,
    composite_members_stay_in_step .empty .markup .universal hcompose hslots hthrough
      List.mem_cons_self⟩

end Bag

end MetadataBag
