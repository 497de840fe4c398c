import Mathlib.Data.List.Infix

/-! The C library string functions incoming_spa.c calls, over strings held as the
characters before their NUL terminator. -/
namespace Fwknopd

/-- A NUL-terminated C string, as the characters before its terminator. -/
abbrev CStr := List Char

def nul : Char := Char.ofNat 0

/-- The first `n` bytes of a buffer holding `s`, read as NUL past the terminator. -/
def bufBytes (s : CStr) (n : Nat) : List Char := (s ++ List.replicate n nul).take n

/-- `isspace` in the C locale. -/
def isSpace (c : Char) : Bool :=
  c == ' ' || c == '\t' || c == '\n' || c == '\r' || c.toNat == 11 || c.toNat == 12

/-- `strncasecmp(s, t, strlen(t)) == 0`: `s` starts with `t` up to ASCII case. -/
def strncasecmpEq (s t : CStr) : Bool :=
  (bufBytes s t.length).map Char.toLower == t.map Char.toLower

/-- `constant_runtime_cmp(s, t, n) == 0`: the first `n` bytes of both buffers agree. -/
def constantRuntimeCmpEq (s t : CStr) (n : Nat) : Bool := bufBytes s n == bufBytes t n

/-- `strstr(s, t) != NULL`. -/
def strstr (s t : CStr) : Bool := decide (t <:+: s)

/-- `strchr(s, c)`, as the index of the first `c`. -/
def strchr (s : CStr) (c : Char) : Option Nat := s.indexOf? c

/-- The string `strlcpy(dst, src, size)` leaves in `dst`, for `size > 0`. -/
def strlcpy (src : CStr) (size : Nat) : CStr := src.take (size - 1)

/-- The string `strlcat(dst, src, size)` leaves in `dst`. -/
def strlcat (dst src : CStr) (size : Nat) : CStr :=
  if dst.length < size then dst ++ src.take (size - 1 - dst.length) else dst

/-- `strcmp(s, t) == 0`. -/
def strcmpEq (s t : CStr) : Bool := s == t

theorem bufBytes_of_le {s : CStr} {n : Nat} (h : n ≤ s.length) : bufBytes s n = s.take n := by
  simp [bufBytes, List.take_append_of_le_length h]

theorem bufBytes_of_ge {s : CStr} {n : Nat} (h : s.length ≤ n) :
    bufBytes s n = s ++ List.replicate (n - s.length) nul := by
  simp [bufBytes, List.take_append_eq_append_take, List.take_replicate, List.take_of_length_le h]

theorem strchr_eq_some_iff {s : CStr} {c : Char} {d : Nat} :
    strchr s c = some d ↔ ∃ t r, s = t ++ c :: r ∧ c ∉ t ∧ t.length = d := by
  induction s generalizing d with
  | nil => simp [strchr]
  | cons x s ih =>
    simp only [strchr, List.indexOf?_cons, beq_iff_eq] at ih ⊢
    split_ifs with hx
    · subst hx
      constructor
      · rintro ⟨⟩
        exact ⟨[], s, rfl, List.not_mem_nil _, rfl⟩
      · rintro ⟨_ | ⟨y, t⟩, r, h, hc, rfl⟩
        · rfl
        · obtain ⟨rfl, -⟩ := List.cons.inj h
          exact absurd (List.mem_cons_self _ _) hc
    · rw [Option.map_eq_some']
      constructor
      · rintro ⟨d, hd, rfl⟩
        obtain ⟨t, r, rfl, hc, rfl⟩ := ih.1 hd
        exact ⟨x :: t, r, rfl, by simp [hc, Ne.symm hx], rfl⟩
      · rintro ⟨_ | ⟨y, t⟩, r, h, hc, rfl⟩
        · exact absurd (List.cons.inj h).1 hx
        · obtain ⟨rfl, rfl⟩ := List.cons.inj h
          exact ⟨t.length, ih.2 ⟨t, r, rfl, fun h => hc (List.mem_cons_of_mem _ h), rfl⟩, rfl⟩

theorem strlcat_take {a b : CStr} {size : Nat} :
    strlcat (a.take (size - 1)) b size = (a ++ b).take (size - 1) := by
  unfold strlcat
  rw [List.take_append_eq_append_take]
  split_ifs with h
  · rw [List.length_take]
    congr 2
    omega
  · simp only [List.length_take] at h
    have hs : size = 0 := by omega
    simp [hs]

theorem constantRuntimeCmpEq_iff_isPrefix {s t : CStr} (ht : nul ∉ t) :
    constantRuntimeCmpEq s t t.length = true ↔ t <+: s := by
  constructor
  · intro h
    by_cases hl : t.length ≤ s.length
    · have h' : s.take t.length = t := by
        simpa [constantRuntimeCmpEq, bufBytes_of_le hl, bufBytes_of_le le_rfl] using h
      exact h' ▸ List.take_prefix _ _
    · have h' : s ++ List.replicate (t.length - s.length) nul = t := by
        simpa [constantRuntimeCmpEq, bufBytes_of_le le_rfl, bufBytes_of_ge (le_of_not_le hl)] using h
      exact absurd (h' ▸ List.mem_append_right s (List.mem_replicate.2 ⟨by omega, rfl⟩)) ht
  · rintro ⟨u, rfl⟩
    simp [constantRuntimeCmpEq, bufBytes_of_le le_rfl,
      bufBytes_of_le (by simp : t.length ≤ (t ++ u).length)]

end Fwknopd
