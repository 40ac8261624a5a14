import Mathlib.Data.List.TakeWhile

/-!
C strings, as the bytes before their NUL: bounded copies (`bounded`, what `snprintf` leaves
in a buffer), tokens between blanks (`tokens`, a loop over `strtok_r` with the separators
space and tab) and decimal numbers (`atoi`).

Words without blanks that are joined by single spaces are the tokens of the text they form
(`tokens_join`), and a bounded copy of a text that fits is the text (`bounded_eq`).
-/

namespace DarwinNet.Lib

/-- The bytes of a string a C program sees. -/
def cString (s : List Char) : List Char := s.takeWhile (· ≠ '\x00')

/-- What a buffer of `size` bytes holds after `snprintf` of `s` into it. -/
def bounded (size : Nat) (s : List Char) : List Char := s.take (size - 1)

def isBlank (c : Char) : Bool := c = ' ' || c = '\t'

/-- The tokens `strtok_r` returns with the separators space and tab. -/
def tokens (s : List Char) : List (List Char) := (s.splitOnP isBlank).filter (· ≠ [])

def isDigit (c : Char) : Bool := '0' ≤ c && c ≤ '9'

def digitsValue (s : List Char) : Nat :=
  (s.takeWhile isDigit).foldl (fun n c => n * 10 + (c.toNat - '0'.toNat)) 0

def atoi (s : List Char) : Int :=
  match s.dropWhile fun c => c = ' ' || ('\t' ≤ c && c ≤ '\r') with
  | '-' :: t => -digitsValue t
  | '+' :: t => digitsValue t
  | t => digitsValue t

lemma cString_eq {s : List Char} (h : '\x00' ∉ s) : cString s = s := by
  refine List.takeWhile_eq_self_iff.mpr ?_
  intro c hc
  exact decide_eq_true fun heq => h (heq ▸ hc)

lemma bounded_eq {size : Nat} {s : List Char} (h : s.length < size) : bounded size s = s :=
  List.take_of_length_le (by omega)

variable {ws : List (List Char)}

lemma splitOnP_intercalate {p : Char → Bool} {sep : Char} (hsep : p sep = true)
    (hws : ∀ w ∈ ws, ∀ c ∈ w, p c = false) (hne : ws ≠ []) :
    ([sep].intercalate ws).splitOnP p = ws := by
  induction ws with
  | nil => exact absurd rfl hne
  | cons w ws ih =>
    cases ws with
    | nil =>
      rw [List.intercalate_singleton]
      exact List.splitOnP_eq_singleton (hws w (by simp))
    | cons v vs =>
      rw [List.intercalate_cons_cons, List.append_assoc, List.singleton_append,
        List.splitOnP_append_cons_of_forall_mem (hws w (by simp)) sep hsep,
        ih (fun u hu => hws u (by simp [hu])) (by simp)]

lemma tokens_join (hws : ∀ w ∈ ws, ∀ c ∈ w, isBlank c = false) (hne : ∀ w ∈ ws, w ≠ []) :
    tokens ([' '].intercalate ws) = ws := by
  cases ws with
  | nil => rfl
  | cons w ws =>
    rw [tokens, splitOnP_intercalate rfl hws (by simp)]
    refine List.filter_eq_self.mpr ?_
    intro v hv
    exact decide_eq_true (hne v hv)

lemma length_intercalate_le (sep : Char) {n : Nat} (h : ∀ w ∈ ws, w.length ≤ n) :
    ([sep].intercalate ws).length ≤ ws.length * (n + 1) := by
  induction ws with
  | nil => simp
  | cons w ws ih =>
    have hw := h w (by simp)
    cases ws with
    | nil =>
      rw [List.intercalate_singleton, List.length_singleton]
      omega
    | cons v vs =>
      have hrest := ih fun u hu => h u (by simp [hu])
      rw [List.intercalate_cons_cons]
      simp only [List.length_append, List.length_cons, List.length_nil] at hrest ⊢
      have hmul : (vs.length + 1 + 1) * (n + 1) = (vs.length + 1) * (n + 1) + (n + 1) :=
        Nat.succ_mul _ _
      omega

lemma mem_intercalate {sep c : Char} (h : c ∈ [sep].intercalate ws) :
    c = sep ∨ ∃ w ∈ ws, c ∈ w := by
  induction ws with
  | nil => simp at h
  | cons w ws ih =>
    cases ws with
    | nil =>
      rw [List.intercalate_singleton] at h
      exact .inr ⟨w, by simp, h⟩
    | cons v vs =>
      rw [List.intercalate_cons_cons, List.mem_append, List.mem_append] at h
      rcases h with (h | h) | h
      · exact .inr ⟨w, by simp, h⟩
      · exact .inl (List.mem_singleton.mp h)
      · rcases ih h with h | ⟨u, hu, hc⟩
        · exact .inl h
        · exact .inr ⟨u, by simp [hu], hc⟩

end DarwinNet.Lib
