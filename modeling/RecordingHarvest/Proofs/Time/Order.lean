import RecordingHarvest.Time.Instant

/-!
# The order of instants

Instants are ordered by seconds and then nanoseconds, whether or not they can be represented; the
laws here are those of a strict linear order, of the later of two instants and of the latest of some
(`Instant.IsLatest`).
-/

namespace RecordingHarvest
namespace Instant

theorem lt_iff {a b : Instant} :
    a < b ↔ a.secs < b.secs ∨ (a.secs = b.secs ∧ a.nanos < b.nanos) := Iff.rfl

theorem lt_irrefl (a : Instant) : ¬ a < a := by
  rw [lt_iff]; omega

theorem lt_trans {a b c : Instant} (hab : a < b) (hbc : b < c) : a < c := by
  rw [lt_iff] at *; omega

theorem lt_asymm {a b : Instant} (h : a < b) : ¬ b < a := by
  rw [lt_iff] at *; omega

theorem lt_of_not_lt_of_lt {a b c : Instant} (hab : ¬ b < a) (hbc : b < c) : a < c := by
  rw [lt_iff] at *; omega

/-- An instant is later than the later of two exactly when it is later than both. -/
theorem latest_lt_iff {a b t : Instant} : latest a b < t ↔ a < t ∧ b < t := by
  unfold latest
  split
  · rename_i h
    exact ⟨fun hb => ⟨lt_trans h hb, hb⟩, And.right⟩
  · rename_i h
    exact ⟨fun ha => ⟨ha, lt_of_not_lt_of_lt h ha⟩, And.left⟩

theorem le_iff {a b : Instant} : a ≤ b ↔ ¬ b < a := Iff.rfl

theorem le_refl (a : Instant) : a ≤ a := lt_irrefl a

theorem lt_of_le_of_lt {a b c : Instant} (hab : a ≤ b) (hbc : b < c) : a < c :=
  lt_of_not_lt_of_lt hab hbc

theorem le_trans {a b c : Instant} (hab : a ≤ b) (hbc : b ≤ c) : a ≤ c := by
  rw [le_iff, lt_iff] at *; omega

/-! ## The latest of some instants -/

/-- One of the instants, and none of them is later. -/
def IsLatest (t : Instant) (ts : List Instant) : Prop := t ∈ ts ∧ ∀ u ∈ ts, u ≤ t

/-- An instant is later than the latest of some exactly when it is later than all of them. -/
theorem IsLatest.lt_iff {t : Instant} {ts : List Instant} (h : t.IsLatest ts) (v : Instant) :
    t < v ↔ ∀ u ∈ ts, u < v :=
  ⟨fun htv u hu => lt_of_le_of_lt (h.2 u hu) htv, fun hall => hall t h.1⟩

theorem isLatest_singleton (t : Instant) : t.IsLatest [t] :=
  ⟨List.mem_singleton.2 rfl, fun u hu => by rw [List.mem_singleton.1 hu]; exact le_refl t⟩

/-- The later of the first two stands for both. -/
theorem IsLatest.of_latest {t a b : Instant} {ts : List Instant}
    (h : t.IsLatest (latest a b :: ts)) : t.IsLatest (a :: b :: ts) := by
  obtain ⟨hmem, hle⟩ := h
  have hlater : latest a b ≤ t := hle _ List.mem_cons_self
  have hboth : a ≤ latest a b ∧ b ≤ latest a b := by
    constructor
    · intro hlt
      exact lt_irrefl a (latest_lt_iff.1 hlt).1
    · intro hlt
      exact lt_irrefl b (latest_lt_iff.1 hlt).2
  constructor
  · rcases List.mem_cons.1 hmem with rfl | hts
    · by_cases hab : a < b
      · simp [latest, hab]
      · simp [latest, hab]
    · exact List.mem_cons_of_mem _ (List.mem_cons_of_mem _ hts)
  · intro u hu
    rcases List.mem_cons.1 hu with rfl | hu
    · exact le_trans hboth.1 hlater
    · rcases List.mem_cons.1 hu with rfl | hu
      · exact le_trans hboth.2 hlater
      · exact hle u (List.mem_cons_of_mem _ hu)

end Instant
end RecordingHarvest
