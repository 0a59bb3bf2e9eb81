import RecordingHarvest.Json.Value

/-!
# Sorted members

`Members.put` keeps members sorted by key, so whatever is put together from entries is sorted, and
sorted members put together anew are the same members.

* `Sorted.put`, `sorted_ofEntries`: sorted members come of everything.
* `ofEntries_of_sorted`: sorted members come of themselves.
* `ofEntries_of_perm`: and of themselves in any other order.
* `isSome_get?_ofEntries`: no key of the entries is lost.
-/

namespace RecordingHarvest
namespace Members

variable {α : Type} {ms acc : Members α} {key : String} {value : α}

/-- Sorted by key, each key once. -/
def Sorted (ms : Members α) : Prop := ms.Pairwise fun m n => m.1 < n.1

/-! ## Looking up -/

theorem mem_of_get? (h : ms.get? key = some value) : (key, value) ∈ ms := by
  induction ms with
  | nil => cases h
  | cons m rest ih =>
      obtain ⟨k, v⟩ := m
      rw [get?] at h
      by_cases hkey : k = key
      · rw [if_pos hkey] at h
        obtain rfl := Option.some.inj h
        rw [← hkey]
        exact List.mem_cons_self
      · rw [if_neg hkey] at h
        exact List.mem_cons_of_mem _ (ih h)

theorem get?_eq_none (h : ∀ m ∈ ms, m.1 ≠ key) : ms.get? key = none := by
  cases hget : ms.get? key with
  | none => rfl
  | some v => exact absurd rfl (h _ (mem_of_get? hget))

/-! ## Putting -/

theorem sorted_nil : Sorted ([] : Members α) := List.Pairwise.nil

/-- What is put is there, and nothing else is new. -/
theorem eq_or_mem_of_mem_put {m : String × α} (h : m ∈ ms.put key value) :
    m = (key, value) ∨ m ∈ ms := by
  induction ms with
  | nil => simpa [put] using h
  | cons n rest ih =>
      obtain ⟨k, v⟩ := n
      rw [put] at h
      by_cases hsame : key = k
      · rw [if_pos hsame, List.mem_cons] at h
        exact h.imp_right (List.mem_cons_of_mem _)
      by_cases hbefore : key < k
      · rw [if_neg hsame, if_pos hbefore, List.mem_cons] at h
        exact h
      · rw [if_neg hsame, if_neg hbefore, List.mem_cons] at h
        rcases h with rfl | h
        · exact .inr List.mem_cons_self
        · exact (ih h).imp_right (List.mem_cons_of_mem _)

/-- A key that is neither another one nor before it is behind it. -/
theorem lt_of_not_lt {k : String} (hbefore : ¬ key < k) (hsame : key ≠ k) : k < key := by
  by_cases hlt : k < key
  · exact hlt
  · exact absurd (String.le_antisymm (String.not_lt.1 hlt) (String.not_lt.1 hbefore)) hsame

theorem Sorted.put (h : Sorted ms) (key : String) (value : α) : Sorted (ms.put key value) := by
  induction ms with
  | nil => exact List.pairwise_singleton _ _
  | cons n rest ih =>
      obtain ⟨k, v⟩ := n
      obtain ⟨hfirst, hrest⟩ := List.pairwise_cons.1 h
      rw [Members.put]
      by_cases hsame : key = k
      · rw [if_pos hsame]
        exact List.pairwise_cons.2 ⟨fun m hm => hsame ▸ hfirst m hm, hrest⟩
      by_cases hbefore : key < k
      · rw [if_neg hsame, if_pos hbefore]
        refine List.pairwise_cons.2 ⟨fun m hm => ?_, h⟩
        rcases List.mem_cons.1 hm with rfl | hm
        · exact hbefore
        · exact String.lt_trans hbefore (hfirst m hm)
      · rw [if_neg hsame, if_neg hbefore]
        refine List.pairwise_cons.2 ⟨fun m hm => ?_, ih hrest⟩
        rcases eq_or_mem_of_mem_put hm with rfl | hm
        · exact lt_of_not_lt hbefore hsame
        · exact hfirst m hm

theorem Sorted.putAll (h : Sorted acc) (entries : List (String × α)) :
    Sorted (acc.putAll entries) := by
  induction entries generalizing acc with
  | nil => exact h
  | cons n rest ih => exact ih (h.put n.1 n.2)

theorem sorted_ofEntries (entries : List (String × α)) : Sorted (ofEntries entries) :=
  sorted_nil.putAll entries

theorem mem_of_mem_putAll {m : String × α} {entries : List (String × α)}
    (h : m ∈ acc.putAll entries) : m ∈ acc ∨ m ∈ entries := by
  induction entries generalizing acc with
  | nil => exact .inl h
  | cons n rest ih =>
      rcases ih h with h | h
      · rcases eq_or_mem_of_mem_put h with rfl | h
        · exact .inr List.mem_cons_self
        · exact .inl h
      · exact .inr (List.mem_cons_of_mem n h)

/-- Nothing comes of entries that is not among them. -/
theorem mem_of_mem_ofEntries {m : String × α} {entries : List (String × α)}
    (h : m ∈ ofEntries entries) : m ∈ entries := by
  rcases mem_of_mem_putAll h with h | h
  · exact absurd h List.not_mem_nil
  · exact h

theorem isSome_get?_putAll {entries : List (String × α)}
    (h : (acc.get? key).isSome = true ∨ ∃ m ∈ entries, m.1 = key) :
    ((acc.putAll entries).get? key).isSome = true := by
  induction entries generalizing acc with
  | nil => exact h.resolve_right fun ⟨_, hm, _⟩ => List.not_mem_nil hm
  | cons n rest ih =>
      have hstep : acc.putAll (n :: rest) = (acc.put n.1 n.2).putAll rest := rfl
      rw [hstep]
      refine ih ?_
      by_cases hkey : key = n.1
      · exact .inl (by rw [hkey, get?_put_self]; rfl)
      · rcases h with h | ⟨m, hm, hmkey⟩
        · exact .inl (by rwa [get?_put_of_ne _ _ hkey])
        · have hne : m ≠ n := fun heq => hkey (heq ▸ hmkey.symm)
          exact .inr ⟨m, (List.mem_cons.1 hm).resolve_left hne, hmkey⟩

/-- **No key of the entries is lost.** -/
theorem isSome_get?_ofEntries {m : String × α} {entries : List (String × α)} (h : m ∈ entries) :
    ((ofEntries entries).get? m.1).isSome = true :=
  isSome_get?_putAll (.inr ⟨m, h, rfl⟩)

/-- A key behind all others is put at the end. -/
theorem put_of_forall_lt (h : ∀ m ∈ ms, m.1 < key) : ms.put key value = ms ++ [(key, value)] := by
  induction ms with
  | nil => rfl
  | cons n rest ih =>
      obtain ⟨k, v⟩ := n
      have hlt : k < key := h (k, v) List.mem_cons_self
      have hne : key ≠ k := by
        rintro rfl
        exact String.lt_irrefl _ hlt
      rw [put, if_neg hne, if_neg (String.lt_asymm hlt),
        ih fun m hm => h m (List.mem_cons_of_mem _ hm)]
      rfl

theorem putAll_of_sorted {entries : List (String × α)} (h : Sorted (acc ++ entries)) :
    acc.putAll entries = acc ++ entries := by
  induction entries generalizing acc with
  | nil => exact (List.append_nil acc).symm
  | cons n rest ih =>
      obtain ⟨-, -, hbefore⟩ := List.pairwise_append.1 h
      have hput : acc.put n.1 n.2 = acc ++ [n] :=
        put_of_forall_lt fun m hm => hbefore m hm n List.mem_cons_self
      have hsorted : Sorted ((acc ++ [n]) ++ rest) := by rwa [List.append_assoc]
      have hstep : acc.putAll (n :: rest) = (acc.put n.1 n.2).putAll rest := rfl
      rw [hstep, hput, ih hsorted, List.append_assoc]
      rfl

/-- **Sorted members put together anew are the same members.** -/
theorem ofEntries_of_sorted (h : Sorted ms) : ofEntries ms = ms := putAll_of_sorted h

/-! ## Order -/

theorem Sorted.nodup (h : Sorted ms) : ms.Nodup := by
  refine List.Pairwise.imp (fun hlt => ?_) h
  rintro rfl
  exact String.lt_irrefl _ hlt

/-- Sorted members are told by which they are. -/
theorem Sorted.eq_of_mem_iff (hms : Sorted ms) (hacc : Sorted acc) (h : ∀ m, m ∈ ms ↔ m ∈ acc) :
    ms = acc := by
  have hperm : ms.Perm acc := (List.perm_ext_iff_of_nodup hms.nodup hacc.nodup).2 h
  refine hperm.eq_of_pairwise (fun m n _ _ hlt hgt => ?_) hms hacc
  exact absurd hgt (String.lt_asymm hlt)

/-- Each key of sorted members has one value. -/
theorem Sorted.eq_of_key_eq (h : Sorted ms) {m n : String × α} (hm : m ∈ ms) (hn : n ∈ ms)
    (hkey : m.1 = n.1) : m = n := by
  induction ms with
  | nil => exact absurd hm List.not_mem_nil
  | cons first rest ih =>
      obtain ⟨hfirst, hrest⟩ := List.pairwise_cons.1 h
      rcases List.mem_cons.1 hm with hm | hm <;> rcases List.mem_cons.1 hn with hn | hn
      · rw [hm, hn]
      · have hlt := hfirst n hn
        rw [← hkey, hm] at hlt
        exact absurd hlt (String.lt_irrefl _)
      · have hlt := hfirst m hm
        rw [hkey, hn] at hlt
        exact absurd hlt (String.lt_irrefl _)
      · exact ih hrest hm hn

/-- **Sorted members come of themselves in any order.** -/
theorem ofEntries_of_perm {entries : List (String × α)} (h : Sorted ms) (hperm : entries.Perm ms) :
    ofEntries entries = ms := by
  refine (sorted_ofEntries entries).eq_of_mem_iff h fun m => ⟨fun hm => ?_, fun hm => ?_⟩
  · exact hperm.mem_iff.1 (mem_of_mem_ofEntries hm)
  · obtain ⟨value, hvalue⟩ := Option.isSome_iff_exists.1
      (isSome_get?_ofEntries (hperm.mem_iff.2 hm))
    have hthere : (m.1, value) ∈ ofEntries entries := mem_of_get? hvalue
    have hsame : (m.1, value) = m :=
      h.eq_of_key_eq (hperm.mem_iff.1 (mem_of_mem_ofEntries hthere)) hm rfl
    rwa [hsame] at hthere

end Members
end RecordingHarvest
