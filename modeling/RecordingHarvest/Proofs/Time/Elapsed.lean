import RecordingHarvest.Proofs.Time.Order

/-!
# Time that has passed

An instant is some number of nanoseconds since the epoch (`Instant.sinceEpoch`), counted without
bound.  Instants that are no leap seconds are ordered by that number, and a span is added to them by
adding its nanoseconds, unless the sum is beyond every instant.

* `lt_iff_sinceEpoch`: the order of instants is that of the numbers.
* `sinceEpoch_add?`, `add?_eq_none_iff`: which instant comes of an addition, and when none does.
* `le_nanosSince_trans`: times that are whole seconds at least add up, leap seconds or not.
-/

namespace RecordingHarvest
namespace Instant

/-- Nanoseconds since the epoch. -/
def sinceEpoch (t : Instant) : Int := t.secs * 1000000000 + t.nanos

/-- An instant that can be represented and is no leap second. -/
structure Ordinary (t : Instant) : Prop where
  first : firstSecs ≤ t.secs
  last : t.secs ≤ lastSecs
  nanos : t.nanos < 1000000000

theorem ordinary_iff (t : Instant) :
    t.Ordinary ↔ firstSecs ≤ t.secs ∧ t.secs ≤ lastSecs ∧ t.nanos < 1000000000 :=
  ⟨fun h => ⟨h.first, h.last, h.nanos⟩, fun ⟨hfirst, hlast, hnanos⟩ => ⟨hfirst, hlast, hnanos⟩⟩

instance (t : Instant) : Decidable t.Ordinary := decidable_of_iff _ t.ordinary_iff.symm

theorem ordinary_epoch : epoch.Ordinary := by decide

theorem Ordinary.isLeap {t : Instant} (h : t.Ordinary) : t.isLeap = false :=
  decide_eq_false (Nat.not_le.2 h.nanos)

/-- The instants that are no leap seconds are ordered by their nanoseconds since the epoch. -/
theorem lt_iff_sinceEpoch {a b : Instant} (ha : a.Ordinary) (hb : b.Ordinary) :
    a < b ↔ a.sinceEpoch < b.sinceEpoch := by
  have hnanos := ha.nanos
  have hnanos' := hb.nanos
  rw [lt_iff, sinceEpoch, sinceEpoch]
  omega

/-- Without a leap second the parts of a span are added to those of the instant, with one carry. -/
theorem add?_ordinary {t : Instant} (h : t.Ordinary) (s : Span) :
    t.add? s =
      let later : Instant :=
        ⟨t.secs + (s.secs + (t.nanos + s.subsec) / 1000000000 : Nat),
          (t.nanos + s.subsec) % 1000000000⟩
      if later.secs ≤ lastSecs then some later else none := by
  simp [add?, h.isLeap]

theorem secs_add_subsec (s : Span) : s.secs * 1000000000 + s.subsec = s.nanos := by
  rw [Span.secs, Span.subsec]
  omega

/-- What comes of adding a span has its nanoseconds added. -/
theorem sinceEpoch_add? {t u : Instant} {s : Span} (h : t.Ordinary) (hu : t.add? s = some u) :
    u.Ordinary ∧ u.sinceEpoch = t.sinceEpoch + s.nanos := by
  have hparts := secs_add_subsec s
  rw [add?_ordinary h] at hu
  dsimp only at hu
  split at hu
  · rename_i hlast
    obtain rfl := Option.some.inj hu
    have hfirst := h.first
    refine ⟨⟨?_, hlast, Nat.mod_lt _ (by decide)⟩, ?_⟩
    · dsimp only
      omega
    · simp only [sinceEpoch]
      omega
  · exact nomatch hu

/-- Nothing comes of adding a span exactly if it leads past every instant. -/
theorem add?_eq_none_iff {t : Instant} {s : Span} (h : t.Ordinary) :
    t.add? s = none ↔ ∀ u : Instant, u.Ordinary → u.sinceEpoch < t.sinceEpoch + s.nanos := by
  have hparts := secs_add_subsec s
  constructor
  · intro hnone u hu
    rw [add?_ordinary h] at hnone
    dsimp only at hnone
    split at hnone
    · exact nomatch hnone
    · rename_i hpast
      have hlast := hu.last
      have hnanos := hu.nanos
      simp only [sinceEpoch]
      omega
  · intro hpast
    cases hsum : t.add? s with
    | none => rfl
    | some u =>
        obtain ⟨hu, hsame⟩ := sinceEpoch_add? h hsum
        have hbefore := hpast u hu
        omega

/-! ## From one instant to another -/

/-- Times between instants add up but for one leap second. -/
theorem nanosSince_triangle (a b c : Instant) :
    b.nanosSince a + c.nanosSince b ≤ c.nanosSince a + 1000000000 := by
  simp only [nanosSince, isLeap, decide_eq_true_eq]
  split <;> split <;> split <;> omega

theorem nanosSince_nonneg_trans {a b c : Instant} (ha : a.Valid) (hb : b.Valid) (hc : c.Valid)
    (hab : a ≤ b) (hbc : b ≤ c) (hfirst : 0 ≤ b.nanosSince a) (hthen : 0 ≤ c.nanosSince b) :
    0 ≤ c.nanosSince a := by
  obtain ⟨-, -, ha⟩ := ha
  obtain ⟨-, -, hb⟩ := hb
  obtain ⟨-, -, hc⟩ := hc
  rw [le_iff, lt_iff] at hab hbc
  simp only [nanosSince, isLeap, decide_eq_true_eq, timeOfDay] at hfirst hthen ⊢
  split at hfirst <;> split at hthen <;> split <;> omega

/-- **Times that are whole seconds at least add up**: what is as long between two instants, and between
the second and a third one, is as long between the first and the third, leap seconds or not. -/
theorem le_nanosSince_trans {a b c : Instant} (ha : a.Valid) (hb : b.Valid) (hc : c.Valid)
    (hab : a ≤ b) (hbc : b ≤ c) {secs : Nat} (hfirst : (secs * 1000000000 : Int) ≤ b.nanosSince a)
    (hthen : (secs * 1000000000 : Int) ≤ c.nanosSince b) :
    (secs * 1000000000 : Int) ≤ c.nanosSince a := by
  cases secs with
  | zero =>
      have hlast := nanosSince_nonneg_trans ha hb hc hab hbc (by omega) (by omega)
      omega
  | succ secs =>
      have htriangle := nanosSince_triangle a b c
      omega

end Instant
end RecordingHarvest
