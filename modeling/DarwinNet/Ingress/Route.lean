import Mathlib.Data.List.MinMax
import DarwinNet.Netip.Addr

/-!
The route table of the ingress (`route.go`): `Match` takes the best matching rule of the host's
tier, else of the hostless tier, else the default backend.

The best rule is chosen by the length of its path's text, while rules match by segments. In
every order of the rules the winner is the most specific one exactly if none of the longest
matching texts belongs to a less specific rule (`most_specific_rule_wins_iff`). A trailing slash is
enough to make a text longer (`trailing_slash_beats_exact`).

A string is the list of its bytes, each written as the character of that number.
-/

namespace DarwinNet.Ingress

open Netip

abbrev Text := List Char

/-- `PathType`, a string type with two known values. -/
inductive PathType
  | pathTypeExact
  | pathTypePrefix
  | other (text : Text)
  deriving DecidableEq

structure Backend where
  vip : Addr
  port : UInt16
  deriving DecidableEq

structure Rule where
  host : Text
  path : Text
  pathType : PathType
  backend : Backend
  deriving DecidableEq

structure RouteState where
  rules : List Rule
  defaultBackend : Option Backend
  deriving DecidableEq

def update (toLower : Text → Text) (rules : List Rule) (defaultBackend : Option Backend) :
    RouteState where
  rules := rules.map fun r => { r with host := toLower r.host }
  defaultBackend := defaultBackend

def pathSegments (p : Text) : List Text := (p.splitOn '/').filter (· ≠ [])

def segmentPrefixMatch (rulePath reqPath : Text) : Bool :=
  let rs := pathSegments rulePath
  let ps := pathSegments reqPath
  if ps.length < rs.length then false else (rs.zip ps).all fun e => e.1 = e.2

def ruleMatches (r : Rule) (path : Text) : Bool :=
  match r.pathType with
  | .pathTypeExact => path = r.path
  | .pathTypePrefix => segmentPrefixMatch r.path path
  | .other _ => false

/-- The test of the loop of `bestMatch`. The best rule so far stands for the three variables the
loop takes from it; there is none as long as `bestLen` is -1. -/
def better (r : Rule) : Option Rule → Bool
  | none => true
  | some b => b.path.length < r.path.length ||
      (r.path.length = b.path.length && r.pathType = .pathTypeExact && b.pathType ≠ .pathTypeExact)

def bestRule (rules : List Rule) (host path : Text) : Option Rule :=
  rules.foldl (fun best r =>
    if r.host = host && ruleMatches r path then if better r best then some r else best
    else best) none

def bestMatch (rules : List Rule) (host path : Text) : Option Backend :=
  (bestRule rules host path).map Rule.backend

def RouteState.match_ (st : RouteState) (host path : Text) : Option Backend :=
  bestMatch st.rules host path <|> bestMatch st.rules [] path <|> st.defaultBackend

def RouteState.winner (st : RouteState) (host path : Text) : Option Rule :=
  bestRule st.rules host path <|> bestRule st.rules [] path

/-! ## The two measures -/

def Rule.segments (r : Rule) : Nat := (pathSegments r.path).length

def Rule.exactBit (r : Rule) : Nat := if r.pathType = .pathTypeExact then 1 else 0

/-- The number of segments, then Exact before Prefix, as one number. -/
def Rule.specificity (r : Rule) : Nat := 2 * r.segments + r.exactBit

/-- The length of the path, then Exact before Prefix. -/
def Rule.weight (r : Rule) : Nat := 2 * r.path.length + r.exactBit

def tier (rules : List Rule) (host path : Text) : List Rule :=
  rules.filter fun r => r.host = host && ruleMatches r path

/-- The tier `Match` answers from: the host's, or the hostless one if no rule of the host
matches. -/
def chosenTier (st : RouteState) (host path : Text) : List Rule :=
  tier st.rules (if tier st.rules host path = [] then [] else host) path

lemma Rule.exactBit_cases (r : Rule) :
    r.pathType = .pathTypeExact ∧ r.exactBit = 1 ∨
      r.pathType ≠ .pathTypeExact ∧ r.exactBit = 0 := by
  unfold exactBit
  split_ifs with h
  · exact .inl ⟨h, rfl⟩
  · exact .inr ⟨h, rfl⟩

lemma better_some (r b : Rule) : better r (some b) = decide (b.weight < r.weight) := by
  rw [Bool.eq_iff_iff, decide_eq_true_iff]
  simp only [better, Bool.or_eq_true, Bool.and_eq_true, decide_eq_true_eq, Rule.weight]
  rcases r.exactBit_cases with ⟨hr, hbit⟩ | ⟨hr, hbit⟩ <;>
    rcases b.exactBit_cases with ⟨hb, hbit'⟩ | ⟨hb, hbit'⟩ <;>
    simp [hr, hb, hbit, hbit'] <;> omega

variable {α : Type}

lemma exists_argmax (f : α → Nat) {l : List α} (h : l ≠ []) : ∃ w, l.argmax f = some w :=
  Option.ne_none_iff_exists'.mp fun hnone => h (List.argmax_eq_none.mp hnone)

lemma bestRule_eq_argmax (rules : List Rule) (host path : Text) :
    bestRule rules host path = (tier rules host path).argmax Rule.weight := by
  rw [List.argmax, tier, List.foldl_filter]
  refine congrArg (fun f => rules.foldl f none) (funext fun best => funext fun r => ?_)
  cases best with
  | none => rfl
  | some b => simp [better_some, List.argAux]

lemma winner_eq_argmax (st : RouteState) (host path : Text) :
    st.winner host path = (chosenTier st host path).argmax Rule.weight := by
  unfold RouteState.winner chosenTier
  rw [bestRule_eq_argmax, bestRule_eq_argmax]
  split_ifs with h
  · rw [h]
    rfl
  · obtain ⟨w, hw⟩ := exists_argmax Rule.weight h
    rw [hw]
    rfl

lemma match_eq_winner (st : RouteState) (host path : Text) :
    st.match_ host path = ((st.winner host path).map Rule.backend <|> st.defaultBackend) := by
  unfold RouteState.match_ bestMatch RouteState.winner
  cases bestRule st.rules host path <;> rfl

/-- More segments are more specific, and of equal ones the exact rule is. -/
lemma Rule.specificity_le_iff (r w : Rule) : r.specificity ≤ w.specificity ↔
    r.segments ≤ w.segments ∧
      (r.segments = w.segments → r.pathType = .pathTypeExact → w.pathType = .pathTypeExact) := by
  unfold specificity
  rcases r.exactBit_cases with ⟨hr, hbit⟩ | ⟨hr, hbit⟩ <;>
    rcases w.exactBit_cases with ⟨hw, hbit'⟩ | ⟨hw, hbit'⟩ <;>
    simp [hr, hw, hbit, hbit'] <;> omega

lemma pathType_of_mem_tier {rules : List Rule} {host path : Text} {r : Rule}
    (h : r ∈ tier rules host path) : r.pathType = .pathTypeExact ∧ r.path = path ∨
      r.pathType = .pathTypePrefix ∧ segmentPrefixMatch r.path path = true := by
  have hmatch : ruleMatches r path = true := by
    simpa using (Bool.and_eq_true_iff.mp (List.mem_filter.mp h).2).2
  unfold ruleMatches at hmatch
  split at hmatch
  · next ht => exact .inl ⟨ht, (of_decide_eq_true hmatch).symm⟩
  · next ht => exact .inr ⟨ht, hmatch⟩
  · cases hmatch

lemma argmax_eq_of_perm {f : α → Nat} {l l' : List α} (h : l'.Perm l)
    (hone : ∀ a ∈ l, ∀ b ∈ l, (∀ c ∈ l, f c ≤ f a) → (∀ c ∈ l, f c ≤ f b) → a = b) :
    l'.argmax f = l.argmax f := by
  cases hw : l.argmax f with
  | none =>
    rw [List.argmax_eq_none] at hw ⊢
    exact List.perm_nil.mp (hw ▸ h)
  | some w =>
    have hmem := List.argmax_mem hw
    obtain ⟨w', hw'⟩ := exists_argmax f (List.ne_nil_of_mem (h.mem_iff.mpr hmem))
    have heq : w' = w := by
      refine hone w' (h.mem_iff.mp (List.argmax_mem hw')) w hmem ?_ ?_
      · exact fun c hc => List.le_of_mem_argmax (h.mem_iff.mpr hc) hw'
      · exact fun c hc => List.le_of_mem_argmax hc hw
    rw [hw', heq]

lemma argmax_cons_of_le {f : α → Nat} {a : α} {l : List α} (h : ∀ b ∈ l, f b ≤ f a) :
    (a :: l).argmax f = some a := by
  rw [List.argmax_cons]
  cases hw : l.argmax f with
  | none => rfl
  | some w => simp [h w (List.argmax_mem hw)]

section

variable {toLower : Text → Text} {rules rules' : List Rule} {db : Option Backend} {host path : Text}

lemma tier_perm (db : Option Backend) (host path : Text) (h : rules'.Perm rules) :
    (tier (update toLower rules' db).rules host path).Perm
      (tier (update toLower rules db).rules host path) :=
  (h.map _).filter _

lemma chosenTier_eq_tier (db : Option Backend) (host path : Text) (h : rules'.Perm rules) :
    chosenTier (update toLower rules' db) host path = tier (update toLower rules' db).rules
      (if tier (update toLower rules db).rules host path = [] then [] else host) path := by
  have hnil : tier (update toLower rules' db).rules host path = [] ↔
      tier (update toLower rules db).rules host path = [] := by
    rw [← List.length_eq_zero_iff, (tier_perm db host path h).length_eq, List.length_eq_zero_iff]
  simp only [chosenTier, hnil]

lemma chosenTier_perm (h : rules'.Perm rules) :
    (chosenTier (update toLower rules' db) host path).Perm
      (chosenTier (update toLower rules db) host path) := by
  rw [chosenTier_eq_tier db host path h]
  exact tier_perm db _ path h

lemma exists_order {r : Rule} (h : r ∈ chosenTier (update toLower rules db) host path) :
    ∃ rules' rest, rules'.Perm rules ∧
      chosenTier (update toLower rules' db) host path = r :: rest := by
  obtain ⟨hr, hmatch⟩ := List.mem_filter.mp h
  obtain ⟨r₀, hr₀, rfl⟩ := List.mem_map.mp hr
  have hperm : (r₀ :: rules.erase r₀).Perm rules := (List.perm_cons_erase hr₀).symm
  exact ⟨_, _, hperm,
    (chosenTier_eq_tier db host path hperm).trans (List.filter_cons_of_pos hmatch)⟩

lemma key_eq_of_mem_chosenTier {st : RouteState} {r r' : Rule} (hr : r ∈ chosenTier st host path)
    (hr' : r' ∈ chosenTier st host path) (h : r.specificity = r'.specificity) :
    (r.segments, r.pathType) = (r'.segments, r'.pathType) := by
  have hkind := (pathType_of_mem_tier hr).imp And.left And.left
  have hkind' := (pathType_of_mem_tier hr').imp And.left And.left
  unfold Rule.specificity at h
  rcases r.exactBit_cases with ⟨ht, hbit⟩ | ⟨ht, hbit⟩ <;>
    rcases r'.exactBit_cases with ⟨ht', hbit'⟩ | ⟨ht', hbit'⟩
  · rw [ht, ht', show r.segments = r'.segments by omega]
  · omega
  · omega
  · rw [hkind.resolve_left ht, hkind'.resolve_left ht', show r.segments = r'.segments by omega]

end

/-- The backend is the default without a matching rule, else that of a rule of the chosen tier with
the most segments and, among those, Exact if one is; where the matching rules differ in these two
the order does not matter. -/
structure MostSpecificWins (toLower : Text → Text) (rules : List Rule) (db : Option Backend)
    (host path : Text) : Prop where
  unmatched : chosenTier (update toLower rules db) host path = [] →
    (update toLower rules db).match_ host path = db
  matched : chosenTier (update toLower rules db) host path ≠ [] →
    ∃ w ∈ chosenTier (update toLower rules db) host path,
      (update toLower rules db).winner host path = some w ∧
      (update toLower rules db).match_ host path = some w.backend ∧
      ∀ r ∈ chosenTier (update toLower rules db) host path, r.segments ≤ w.segments ∧
        (r.segments = w.segments → r.pathType = .pathTypeExact → w.pathType = .pathTypeExact)
  order : ((chosenTier (update toLower rules db) host path).map
      fun r => (r.segments, r.pathType)).Nodup →
    ∀ rules', rules'.Perm rules →
      (update toLower rules' db).match_ host path = (update toLower rules db).match_ host path

/-- The rules with the longest text are the most specific ones. -/
def HeaviestMostSpecific (l : List Rule) : Prop :=
  ∀ r ∈ l, (∀ r' ∈ l, r'.weight ≤ r.weight) → ∀ r' ∈ l, r'.specificity ≤ r.specificity

lemma MostSpecificWins.of_heaviest {toLower : Text → Text} {rules : List Rule}
    {db : Option Backend} {host path : Text}
    (h : HeaviestMostSpecific (chosenTier (update toLower rules db) host path)) :
    MostSpecificWins toLower rules db host path where
  unmatched hnil := by
    rw [match_eq_winner, winner_eq_argmax, hnil]
    rfl
  matched hne := by
    obtain ⟨w, hw⟩ := exists_argmax Rule.weight hne
    refine ⟨w, List.argmax_mem hw, by rw [winner_eq_argmax, hw], ?_, ?_⟩
    · rw [match_eq_winner, winner_eq_argmax, hw]
      rfl
    · intro r hr
      rw [← Rule.specificity_le_iff]
      exact h w (List.argmax_mem hw) (fun r hr => List.le_of_mem_argmax hr hw) r hr
  order hnodup rules' hperm := by
    rw [match_eq_winner, match_eq_winner, winner_eq_argmax, winner_eq_argmax,
      argmax_eq_of_perm (chosenTier_perm hperm)]
    · rfl
    intro r hr r' hr' hmax hmax'
    have hle := h r' hr' hmax' r hr
    have hge := h r hr hmax r' hr'
    exact List.inj_on_of_nodup_map hnodup hr hr' (key_eq_of_mem_chosenTier hr hr' (by omega))

/-- The most specific rule wins in every order of the rules exactly if none of the longest matching
texts belongs to a less specific rule. -/
theorem most_specific_rule_wins_iff (toLower : Text → Text) (rules : List Rule)
    (db : Option Backend) (host path : Text) :
    (∀ rules', rules'.Perm rules → MostSpecificWins toLower rules' db host path) ↔
      HeaviestMostSpecific (chosenTier (update toLower rules db) host path) := by
  constructor
  · intro h r hr hmax r' hr'
    obtain ⟨rules', rest, hperm, hfirst⟩ := exists_order hr
    have hmem : ∀ {x}, x ∈ r :: rest ↔ x ∈ chosenTier (update toLower rules db) host path :=
      hfirst ▸ (chosenTier_perm hperm).mem_iff
    obtain ⟨w, hw, hwinner, -, hspecific⟩ := (h rules' hperm).matched (by simp [hfirst])
    rw [winner_eq_argmax, hfirst, argmax_cons_of_le fun b hb => hmax b (hmem.mp (by simp [hb]))]
      at hwinner
    cases hwinner
    exact (Rule.specificity_le_iff _ _).mpr (hspecific r' (hfirst ▸ hmem.mpr hr'))
  · intro h rules' hperm
    have hmem : ∀ {x}, x ∈ chosenTier (update toLower rules' db) host path ↔
        x ∈ chosenTier (update toLower rules db) host path := (chosenTier_perm hperm).mem_iff
    refine .of_heaviest ?_
    intro r hr hmax r' hr'
    exact h r (hmem.mp hr) (fun x hx => hmax x (hmem.mpr hx)) r' (hmem.mp hr')

def anyHost (path : String) (pathType : PathType) (port : UInt16) : Rule :=
  ⟨[], path.toList, pathType, ⟨.zero, port⟩⟩

/-- Trailing slashes make a prefix text longer than that of the more specific rule. -/
theorem trailing_slash_beats_exact :
    ¬ MostSpecificWins id [anyHost "/foo" .pathTypeExact 1, anyHost "/foo/" .pathTypePrefix 2]
      none [] "/foo".toList ∧
    ¬ MostSpecificWins id [anyHost "/foo/b" .pathTypePrefix 1, anyHost "/foo///" .pathTypePrefix 2]
      none [] "/foo/b".toList := by
  constructor
  · intro h
    obtain ⟨w, -, hwinner, -, hspecific⟩ := h.matched (by decide +kernel)
    have hprefix : some (anyHost "/foo/" .pathTypePrefix 2) = some w :=
      hwinner ▸ by decide +kernel
    cases hprefix
    have hexact := hspecific (anyHost "/foo" .pathTypeExact 1) (by decide +kernel)
    exact absurd (hexact.2 (by decide +kernel) rfl) (by decide)
  · intro h
    obtain ⟨w, -, hwinner, -, hspecific⟩ := h.matched (by decide +kernel)
    have hprefix : some (anyHost "/foo///" .pathTypePrefix 2) = some w :=
      hwinner ▸ by decide +kernel
    cases hprefix
    exact absurd (hspecific (anyHost "/foo/b" .pathTypePrefix 1) (by decide +kernel)).1
      (by decide +kernel)

end DarwinNet.Ingress
