import JetStream.Proofs.Text.Split
import JetStream.Subject

/-!
# What a filter matches

A filter matches a subject token by token, up to the end of both or up to a `>` that stands for at
least one token.  This file says so by the places of the tokens, and draws from it that a filter
without wildcards matches itself alone, and that a wildcard in the place of tokens loses nothing.
-/

namespace JetStream.Subject

open Text

/-- The tokens of a filter before a place stand for those of a subject at their places. -/
def AgreeBefore (filters tokens : List String) (place : Nat) : Prop :=
  ∀ j < place, filters[j]? = some "*" ∨ filters[j]? = tokens[j]?

/-- The tokens of a filter match those of a subject: to the end of both, or to a `>` in the place
of a token of the subject. -/
def Matches (filters tokens : List String) : Prop :=
  filters.length = tokens.length ∧ AgreeBefore filters tokens filters.length ∨
    ∃ k, filters[k]? = some ">" ∧ k < tokens.length ∧ AgreeBefore filters tokens k

theorem agreeBefore_zero (filters tokens : List String) : AgreeBefore filters tokens 0 :=
  fun _ hj => absurd hj (Nat.not_lt_zero _)

theorem agreeBefore_cons {filter token : String} {filters tokens : List String} {place : Nat} :
    AgreeBefore (filter :: filters) (token :: tokens) (place + 1) ↔
      (filter = "*" ∨ filter = token) ∧ AgreeBefore filters tokens place := by
  constructor
  · intro h
    refine ⟨?_, fun j hj => ?_⟩
    · simpa using h 0 (Nat.zero_lt_succ place)
    · simpa using h (j + 1) (Nat.succ_lt_succ hj)
  · rintro ⟨hfirst, hrest⟩ j hj
    cases j with
    | zero => simpa using hfirst
    | succ j => simpa using hrest j (Nat.lt_of_succ_lt_succ hj)

theorem matches_cons {filter token : String} {filters tokens : List String} :
    Matches (filter :: filters) (token :: tokens) ↔
      filter = ">" ∨ (filter = "*" ∨ filter = token) ∧ Matches filters tokens := by
  unfold Matches
  constructor
  · rintro (⟨hlength, hagree⟩ | ⟨k, hrest, hk, hagree⟩)
    · obtain ⟨hfirst, hagree⟩ := agreeBefore_cons.mp hagree
      exact .inr ⟨hfirst, .inl ⟨Nat.succ.inj hlength, hagree⟩⟩
    · cases k with
      | zero => exact .inl (by simpa using hrest)
      | succ k =>
          obtain ⟨hfirst, hagree⟩ := agreeBefore_cons.mp hagree
          exact .inr ⟨hfirst, .inr ⟨k, by simpa using hrest, Nat.lt_of_succ_lt_succ hk, hagree⟩⟩
  · rintro (rfl | ⟨hfirst, ⟨hlength, hagree⟩ | ⟨k, hrest, hk, hagree⟩⟩)
    · exact .inr ⟨0, rfl, Nat.zero_lt_succ _, agreeBefore_zero _ _⟩
    · exact .inl ⟨congrArg (· + 1) hlength, agreeBefore_cons.mpr ⟨hfirst, hagree⟩⟩
    · exact .inr ⟨k + 1, by simpa using hrest, Nat.succ_lt_succ hk,
        agreeBefore_cons.mpr ⟨hfirst, hagree⟩⟩

theorem matchesTokens_iff (filters tokens : List String) :
    matchesTokens filters tokens = true ↔ Matches filters tokens := by
  induction filters generalizing tokens with
  | nil =>
      cases tokens with
      | nil => simp [matchesTokens, Matches, agreeBefore_zero]
      | cons token tokens => simp [matchesTokens, Matches]
  | cons filter filters ih =>
      cases tokens with
      | nil => simp [matchesTokens, Matches]
      | cons token tokens =>
          rw [matches_cons, ← ih]
          simp [matchesTokens]

theorem isMatch_iff (filter subject : String) :
    isMatch filter subject = true ↔ Matches (tokens filter) (tokens subject) :=
  matchesTokens_iff _ _

/-! ## Wildcards in the place of tokens -/

variable {filters ts : List String}

theorem matches_self (ts : List String) : Matches ts ts :=
  .inl ⟨rfl, fun _ _ => .inr rfl⟩

/-- Without wildcards, tokens match themselves alone. -/
theorem eq_of_matches (h : Matches filters ts)
    (hplain : ∀ token ∈ filters, token ≠ "*" ∧ token ≠ ">") : filters = ts := by
  rcases h with ⟨hlength, hagree⟩ | ⟨k, hrest, -, -⟩
  · refine List.ext_getElem? fun j => ?_
    rcases Nat.lt_or_ge j filters.length with hj | hj
    · refine (hagree j hj).resolve_left fun hstar => ?_
      exact (hplain "*" (List.mem_of_getElem? hstar)).1 rfl
    · rw [List.getElem?_eq_none hj, List.getElem?_eq_none (hlength ▸ hj)]
  · exact absurd rfl (hplain ">" (List.mem_of_getElem? hrest)).2

theorem AgreeBefore.set_star {place : Nat} (h : AgreeBefore filters ts place) (j : Nat) :
    AgreeBefore (filters.set j "*") ts place := by
  intro i hi
  rw [List.getElem?_set]
  split
  next heq =>
    subst heq
    split
    next => exact .inl rfl
    next hlength =>
      rw [← List.getElem?_eq_none (Nat.le_of_not_lt hlength)]
      exact h j hi
  next => exact h i hi

theorem Matches.set_star (h : Matches filters ts) {j : Nat} (hj : filters[j]? ≠ some ">") :
    Matches (filters.set j "*") ts := by
  rcases h with ⟨hlength, hagree⟩ | ⟨k, hrest, hk, hagree⟩
  · refine .inl ⟨?_, ?_⟩
    · rw [List.length_set, hlength]
    · rw [List.length_set]
      exact hagree.set_star j
  · have hne : j ≠ k := fun heq => hj (heq ▸ hrest)
    exact .inr ⟨k, by rw [List.getElem?_set_ne hne, hrest], hk, hagree.set_star j⟩

theorem AgreeBefore.mono {place place' : Nat} (h : AgreeBefore filters ts place')
    (hle : place ≤ place') : AgreeBefore filters ts place :=
  fun j hj => h j (Nat.lt_of_lt_of_le hj hle)

theorem getElem?_take_append {k : Nat} (hk : k ≤ filters.length) (rest : List String) {j : Nat}
    (hj : j < k) : (filters.take k ++ rest)[j]? = filters[j]? := by
  rw [List.getElem?_append_left (by rw [List.length_take]; omega), List.getElem?_take_of_lt hj]

theorem AgreeBefore.take_append {place k : Nat} (h : AgreeBefore filters ts place)
    (hplace : place ≤ k) (hk : k ≤ filters.length) (rest : List String) :
    AgreeBefore (filters.take k ++ rest) ts place := by
  intro j hj
  rw [getElem?_take_append hk rest (Nat.lt_of_lt_of_le hj hplace)]
  exact h j hj

/-- The end of a filter may be `>`, if it is a token or more: it matched no fewer. -/
theorem Matches.take_rest (h : Matches filters ts) {k : Nat} (hk : k < filters.length) :
    Matches (filters.take k ++ [">"]) ts := by
  have hle := Nat.le_of_lt hk
  have hplace : (filters.take k ++ [">"])[k]? = some ">" := by
    rw [List.getElem?_append_right (List.length_take_le k filters), List.length_take,
      Nat.min_eq_left hle, Nat.sub_self]
    rfl
  rcases h with ⟨hlength, hagree⟩ | ⟨k', hrest, hk', hagree⟩
  · exact .inr ⟨k, hplace, hlength ▸ hk, (hagree.mono hle).take_append (Nat.le_refl k) hle _⟩
  · rcases Nat.lt_or_ge k' k with hlt | hge
    · refine .inr ⟨k', ?_, hk', hagree.take_append (Nat.le_of_lt hlt) hle _⟩
      rw [getElem?_take_append hle _ hlt, hrest]
    · exact .inr ⟨k, hplace, Nat.lt_of_le_of_lt hge hk',
        (hagree.mono hge).take_append (Nat.le_refl k) hle _⟩

/-! ## Filters as texts -/

/-- The subject with some tokens. -/
def ofTokens (ts : List String) : String :=
  ".".intercalate ts

theorem ofTokens_tokens (subject : String) : ofTokens (tokens subject) = subject :=
  intercalate_split '.' subject

theorem tokens_ofTokens (hts : ts ≠ []) (h : ∀ token ∈ ts, '.' ∉ token.toList) :
    tokens (ofTokens ts) = ts :=
  split_intercalate hts h

theorem point_notMem_of_mem_tokens {subject token : String} (h : token ∈ tokens subject) :
    '.' ∉ token.toList :=
  notMem_of_mem_split h

theorem tokens_set_star (filter : String) (j : Nat) :
    tokens (ofTokens ((tokens filter).set j "*")) = (tokens filter).set j "*" := by
  refine tokens_ofTokens ?_ fun token htoken => ?_
  · rw [ne_eq, List.set_eq_nil_iff]
    exact split_ne_nil '.' filter
  · rcases List.mem_or_eq_of_mem_set htoken with hmem | rfl
    · exact point_notMem_of_mem_tokens hmem
    · decide

theorem tokens_take_rest (filter : String) (k : Nat) :
    tokens (ofTokens ((tokens filter).take k ++ [">"])) = (tokens filter).take k ++ [">"] := by
  refine tokens_ofTokens (List.concat_ne_nil _ _) fun token htoken => ?_
  rcases List.mem_append.mp htoken with hmem | hmem
  · exact point_notMem_of_mem_tokens (List.mem_of_mem_take hmem)
  · rw [List.mem_singleton.mp hmem]
    decide

/-- A filter matches by the places of its tokens.  So every subject matches itself, a filter
without wildcards matches nothing else, and what a filter matches is still matched with `*` in the
place of a token, unless it is `>`, and with `>` in the place of the last tokens. -/
theorem isMatch_exact (filter subject : String) :
    (isMatch filter subject = true ↔
      let filters := tokens filter
      let ts := tokens subject
      filters.length = ts.length ∧
          (∀ j < filters.length, filters[j]? = some "*" ∨ filters[j]? = ts[j]?) ∨
        ∃ k, filters[k]? = some ">" ∧ k < ts.length ∧
          ∀ j < k, filters[j]? = some "*" ∨ filters[j]? = ts[j]?) ∧
    isMatch subject subject = true ∧
    ((∀ token ∈ tokens filter, token ≠ "*" ∧ token ≠ ">") →
      (isMatch filter subject = true ↔ subject = filter)) ∧
    (∀ j, (tokens filter)[j]? ≠ some ">" → isMatch filter subject = true →
      isMatch (ofTokens ((tokens filter).set j "*")) subject = true) ∧
    (∀ k < (tokens filter).length, isMatch filter subject = true →
      isMatch (ofTokens ((tokens filter).take k ++ [">"])) subject = true) := by
  refine ⟨isMatch_iff filter subject, ?_, ?_, ?_, ?_⟩
  · rw [isMatch_iff]
    exact matches_self _
  · intro hplain
    rw [isMatch_iff]
    constructor
    · intro h
      rw [← ofTokens_tokens subject, ← eq_of_matches h hplain, ofTokens_tokens]
    · rintro rfl
      exact matches_self _
  · intro j hj h
    rw [isMatch_iff, tokens_set_star]
    exact ((isMatch_iff filter subject).mp h).set_star hj
  · intro k hk h
    rw [isMatch_iff, tokens_take_rest]
    exact ((isMatch_iff filter subject).mp h).take_rest hk

/-- An empty token is a token: `a.*.` matches `a..`, and still does with wildcards in its end. -/
theorem isMatch_exact_empty_token :
    isMatch "a.*." "a.." = true ∧ isMatch "a.*.*" "a.." = true ∧ isMatch "a.>" "a.." = true ∧
      (isMatch "a.." "a." = true ↔ "a." = "a..") := by
  obtain ⟨-, -, -, hstar, hrest⟩ := isMatch_exact "a.*." "a.."
  have h : isMatch "a.*." "a.." = true := by decide
  exact ⟨h, hstar 2 (by decide) h, hrest 1 (by decide) h,
    (isMatch_exact "a.." "a.").2.2.1 (by decide)⟩

end JetStream.Subject
