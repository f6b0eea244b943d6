import Mathlib.Tactic.Lemma
import MetadataBag.Proofs.Bag.Congruence

/-!
The names of slots. A slot gets its name when it comes to be, from the key that it is written
under; so what holds of every name that the keys of a run lead to holds of every slot's name.
-/

namespace MetadataBag

variable {P : Name → Prop} {r : Registry}

namespace Store

def Named (P : Name → Prop) (s : Store) : Prop := ∀ n ∈ s.slotNames, P n

variable {s : Store} {n : Name}

lemma Named.put (hs : s.Named P) (hn : P n) (value : String) : (s.put n value).Named P := by
  intro m hm
  rw [slotNames_put] at hm
  split at hm
  · rcases List.mem_append.mp hm with hm | hm
    · exact hs m hm
    · rwa [List.mem_singleton.mp hm]
  · exact hs m hm

lemma Named.remove (hs : s.Named P) (n : Name) : (s.remove n).Named P := by
  intro m hm
  rw [slotNames_remove] at hm
  exact hs m (List.mem_of_mem_filter hm)

end Store

namespace Bag

variable {b : Bag}

/-- Related are a bag and itself, as long as the names of its slots have the property. -/
lemma congruence_named : Congruence P fun a b => a = b ∧ b.store.Named P where
  zone h := by rw [h.1]
  filled h _ := by rw [h.1]
  put h hn value := ⟨by rw [h.1], h.2.put hn value⟩
  remove h _ := ⟨by rw [h.1], h.2.remove _⟩

lemma write_named {w : Write} (hkeys : ∀ k ∈ w.keys, k.Fills r P) (hb : b.store.Named P) :
    (b.write r w).bag.store.Named P := by
  by_cases hw : ∃ k, w = .remove (some k)
  · -- a removal names no slot, so nothing is known of its key
    obtain ⟨k, rfl⟩ := hw
    exact hb.remove _
  · have hwithin : w.Within r P := ⟨hkeys, fun k hk => absurd ⟨k, hk⟩ hw⟩
    exact (congruence_named.write ⟨rfl, hb⟩ hwithin).bag.2

/-- **Names of slots come from keys.** -/
lemma run_named {ws : List Write} (hkeys : ∀ w ∈ ws, ∀ k ∈ w.keys, k.Fills r P)
    (hb : b.store.Named P) : (b.run r ws).store.Named P :=
  run_preserves_of_single (A := fun w => ∀ k ∈ w.keys, k.Fills r P)
    (P := fun b => b.store.Named P) (fun _ _ hk hb => write_named hk hb) hb hkeys

lemma empty_named (codec : Codec) (zone : LocalZone) : (empty codec zone).store.Named P :=
  fun _ hn => nomatch hn

end Bag

end MetadataBag
