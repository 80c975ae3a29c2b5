import Mathlib.Data.List.Induction
import OperatorGrammar.Parselet.Routine

/-!
# Declaring a grammar step by step

A grammar is declared by any number of declarations in any order. Of those that declare the same
thing the last one counts, and in what order different things are declared makes no difference. A
precedence that is declared for a token goes before the function for all tokens.
-/

namespace OperatorGrammar

/-- What a token does is declared by a routine or by a strategy, and the comparator may be the order
that the levels have of their own. -/
inductive Declaration (τ π ε : Type) where
  | precedence (token : τ) (level : π)
  | precedenceOf (level : τ → Option π)
  | order (compare : π → π → Ordering)
  | naturalOrder
  | starter (token : τ) (routine : Routine τ π ε ε)
  | follower (token : τ) (routine : ε → Routine τ π ε ε)
  | starterWith (token : τ) (strategy : Strategy τ π ε)
  | followerWith (token : τ) (strategy : ε → Strategy τ π ε)

/-- The things that can be declared. -/
inductive Declared (τ : Type) where
  | precedence (token : τ)
  | precedenceOf
  | order
  | starter (token : τ)
  | follower (token : τ)

namespace Declaration

variable {τ π ε : Type}

def declared : Declaration τ π ε → Declared τ
  | precedence token _ => .precedence token
  | precedenceOf _ => .precedenceOf
  | order _ | naturalOrder => .order
  | starter token _ | starterWith token _ => .starter token
  | follower token _ | followerWith token _ => .follower token

def entry? : Declaration τ π ε → Option (τ × π)
  | precedence token level => some (token, level)
  | _ => none

def precedenceOf? : Declaration τ π ε → Option (τ → Option π)
  | precedenceOf level => some level
  | _ => none

variable [Ord π]

def setting : Declaration τ π ε → Setting τ π ε
  | precedence token level => .precedence token level
  | precedenceOf level => .precedenceOf level
  | order compare => .order compare
  | naturalOrder => .order compare
  | starter token routine => .starter token routine.toStrategy
  | follower token routine => .follower token fun left ↦ (routine left).toStrategy
  | starterWith token strategy => .starter token strategy
  | followerWith token strategy => .follower token strategy

def order? : Declaration τ π ε → Option (π → π → Ordering)
  | order compare => some compare
  | naturalOrder => some compare
  | _ => none

variable [DecidableEq τ]

def precedence? (token : τ) : Declaration τ π ε → Option π
  | precedence other level => if token = other then some level else none
  | _ => none

def starter? (token : τ) : Declaration τ π ε → Option (Strategy τ π ε)
  | starter other routine => if token = other then some routine.toStrategy else none
  | starterWith other strategy => if token = other then some strategy else none
  | _ => none

def follower? (token : τ) : Declaration τ π ε → Option (ε → Strategy τ π ε)
  | follower other routine =>
    if token = other then some fun left ↦ (routine left).toStrategy else none
  | followerWith other strategy => if token = other then some strategy else none
  | _ => none

end Declaration

/-! ## The last declaration -/

/-- What the last of some things tells, of those that tell anything. -/
def lastOf {α β : Type} (tell : α → Option β) (xs : List α) : Option β :=
  (xs.filterMap tell).getLast?

section

variable {α β : Type} {tell : α → Option β}

theorem lastOf_append_singleton (xs : List α) (x : α) :
    lastOf tell (xs ++ [x]) = (tell x).or (lastOf tell xs) := by
  rw [lastOf, List.filterMap_append]
  cases hx : tell x with
  | none =>
    rw [List.filterMap_cons_none hx, List.filterMap_nil, List.append_nil]
    rfl
  | some y =>
    rw [List.filterMap_cons_some hx, List.filterMap_nil, List.getLast?_concat]
    rfl

theorem lastOf_eq_none_iff {xs : List α} : lastOf tell xs = none ↔ ∀ x ∈ xs, tell x = none := by
  rw [lastOf, List.getLast?_eq_none_iff, List.filterMap_eq_nil_iff]

theorem exists_lastOf_iff {xs : List α} :
    (∃ y, lastOf tell xs = some y) ↔ ∃ x ∈ xs, tell x ≠ none := by
  rw [← Option.ne_none_iff_exists', Ne, lastOf_eq_none_iff]
  push Not
  rfl

theorem lastOf_swap {x y : α} (h : tell x = none ∨ tell y = none) (earlier later : List α) :
    lastOf tell (earlier ++ x :: y :: later) = lastOf tell (earlier ++ y :: x :: later) := by
  unfold lastOf
  rcases h with h | h <;>
    simp only [List.filterMap_append, List.filterMap_cons, h]

end

/-! ## Drafts -/

namespace Draft

variable {τ π ε : Type} [Ord π]

/-- Any part of a draft into which each declaration writes what it tells holds what the last one
tells. -/
theorem part_ofSettings {α : Type} (part : Draft τ π ε → Option α)
    {tell : Declaration τ π ε → Option α} (hnone : part {} = none)
    (hstep : ∀ draft declaration,
      part (draft.apply declaration.setting) = (tell declaration).or (part draft))
    (declarations : List (Declaration τ π ε)) :
    part (ofSettings (declarations.map Declaration.setting)) = lastOf tell declarations := by
  induction declarations using List.reverseRecOn with
  | nil => exact hnone
  | append_singleton declarations declaration ih =>
    rw [ofSettings, List.map_append, List.foldl_append, List.map_singleton, List.foldl_cons,
      List.foldl_nil, hstep, lastOf_append_singleton, ← ih]
    rfl

variable (declarations : List (Declaration τ π ε))

theorem order_ofSettings : (ofSettings (declarations.map Declaration.setting)).order =
    lastOf Declaration.order? declarations := by
  apply part_ofSettings Draft.order rfl
  intro draft declaration
  cases declaration <;> rfl

theorem precedenceOf_ofSettings :
    (ofSettings (declarations.map Declaration.setting)).precedenceOf =
      lastOf Declaration.precedenceOf? declarations := by
  apply part_ofSettings Draft.precedenceOf rfl
  intro draft declaration
  cases declaration <;> rfl

theorem head?_precedences_ofSettings :
    (ofSettings (declarations.map Declaration.setting)).precedences.head? =
      lastOf Declaration.entry? declarations := by
  apply part_ofSettings (fun draft ↦ draft.precedences.head?) rfl
  intro draft declaration
  cases declaration <;> rfl

variable [DecidableEq τ] (token : τ)

theorem lookup_cons {α : Type} (entries : List (τ × α)) (other : τ) (value : α) :
    List.lookup token ((other, value) :: entries) =
      (if token = other then some value else none).or (entries.lookup token) := by
  by_cases h : token = other
  · rw [if_pos h, h, List.lookup_cons_self]
    rfl
  · rw [if_neg h, List.lookup_cons, beq_false_of_ne h]
    rfl

theorem lookup_precedences_ofSettings :
    (ofSettings (declarations.map Declaration.setting)).precedences.lookup token =
      lastOf (Declaration.precedence? token) declarations := by
  apply part_ofSettings (fun draft ↦ draft.precedences.lookup token) rfl
  intro draft declaration
  cases declaration with
  | precedence other => exact lookup_cons token _ other _
  | _ => rfl

theorem lookup_starters_ofSettings :
    (ofSettings (declarations.map Declaration.setting)).starters.lookup token =
      lastOf (Declaration.starter? token) declarations := by
  apply part_ofSettings (fun draft ↦ draft.starters.lookup token) rfl
  intro draft declaration
  cases declaration with
  | starter other => exact lookup_cons token _ other _
  | starterWith other => exact lookup_cons token _ other _
  | _ => rfl

theorem lookup_followers_ofSettings :
    (ofSettings (declarations.map Declaration.setting)).followers.lookup token =
      lastOf (Declaration.follower? token) declarations := by
  apply part_ofSettings (fun draft ↦ draft.followers.lookup token) rfl
  intro draft declaration
  cases declaration with
  | follower other => exact lookup_cons token _ other _
  | followerWith other => exact lookup_cons token _ other _
  | _ => rfl

end Draft

/-! ## The grammar that is declared -/

section

variable {τ π ε : Type} [DecidableEq τ]

/-- The grammar in which the last declaration of each thing holds. -/
def Grammar.ofLast (order : π → π → Ordering) (declarations : List (Declaration τ π ε)) :
    Grammar τ π ε where
  precedence token :=
    (lastOf (Declaration.precedence? token) declarations).or
      ((lastOf Declaration.precedenceOf? declarations).bind (· token))
  order := order
  starter token := lastOf (Declaration.starter? token) declarations
  follower token := lastOf (Declaration.follower? token) declarations

variable [Ord π]

/-- Some declaration tells how levels compare. -/
def HasOrder (declarations : List (Declaration τ π ε)) : Prop :=
  ∃ declaration ∈ declarations, declaration.order? ≠ none

/-- Some declaration tells of precedences. -/
def HasPrecedence (declarations : List (Declaration τ π ε)) : Prop :=
  ∃ declaration ∈ declarations, declaration.entry? ≠ none ∨ declaration.precedenceOf? ≠ none

variable {declarations : List (Declaration τ π ε)} {order : π → π → Ordering}

omit [DecidableEq τ] in
theorem hasPrecedence_iff : HasPrecedence declarations ↔
    ((Draft.ofSettings (declarations.map Declaration.setting)).precedenceOf.isNone &&
      (Draft.ofSettings (declarations.map Declaration.setting)).precedences.isEmpty) = false := by
  have hempty {α : Type} (entries : List α) : entries.isEmpty = entries.head?.isNone := by
    cases entries <;> rfl
  have hnone {α : Type} {tell : Declaration τ π ε → Option α} :
      (lastOf tell declarations).isNone = false ↔ ∃ d ∈ declarations, tell d ≠ none := by
    rw [Option.isNone_eq_false_iff, Option.isSome_iff_exists, exists_lastOf_iff]
  rw [hempty, Draft.precedenceOf_ofSettings, Draft.head?_precedences_ofSettings,
    Bool.and_eq_false_iff, hnone, hnone, or_comm, ← exists_or]
  exact exists_congr fun declaration ↦ and_or_left

theorem ofSettings?_of_not_hasOrder (h : ¬HasOrder declarations) :
    Grammar.ofSettings? (declarations.map Declaration.setting) =
      .error (.missing .comparator) := by
  have hnone : lastOf Declaration.order? declarations = none := by
    by_contra hsome
    exact h (exists_lastOf_iff.1 (Option.ne_none_iff_exists'.1 hsome))
  rw [Grammar.ofSettings?, Draft.build?, Draft.order_ofSettings, hnone]

theorem ofSettings?_of_not_hasPrecedence
    (horder : lastOf Declaration.order? declarations = some order)
    (h : ¬HasPrecedence declarations) :
    Grammar.ofSettings? (declarations.map Declaration.setting) =
      .error (.missing .precedence) := by
  rw [hasPrecedence_iff, Bool.not_eq_false] at h
  rw [Grammar.ofSettings?, Draft.build?, Draft.order_ofSettings, horder, Draft.precedence?_eq,
    if_pos h]

theorem ofSettings?_of_hasPrecedence
    (horder : lastOf Declaration.order? declarations = some order)
    (h : HasPrecedence declarations) :
    Grammar.ofSettings? (declarations.map Declaration.setting) =
      .ok (Grammar.ofLast order declarations) := by
  rw [hasPrecedence_iff] at h
  rw [Grammar.ofSettings?, Draft.build?, Draft.order_ofSettings, horder, Draft.precedence?_eq,
    if_neg (ne_true_of_eq_false h)]
  apply congrArg Except.ok
  unfold Grammar.ofLast Draft.precedence
  simp only [Draft.lookup_precedences_ofSettings, Draft.precedenceOf_ofSettings,
    Draft.lookup_starters_ofSettings, Draft.lookup_followers_ofSettings]

theorem HasOrder.cases (h : HasOrder declarations) :
    ∃ order, lastOf Declaration.order? declarations = some order ∧
      (HasPrecedence declarations ∧
          Grammar.ofSettings? (declarations.map Declaration.setting) =
            .ok (Grammar.ofLast order declarations) ∨
        ¬HasPrecedence declarations ∧
          Grammar.ofSettings? (declarations.map Declaration.setting) =
            .error (.missing .precedence)) := by
  obtain ⟨order, horder⟩ := exists_lastOf_iff.2 h
  refine ⟨order, horder, ?_⟩
  by_cases hprecedence : HasPrecedence declarations
  · exact .inl ⟨hprecedence, ofSettings?_of_hasPrecedence horder hprecedence⟩
  · exact .inr ⟨hprecedence, ofSettings?_of_not_hasPrecedence horder hprecedence⟩

end

/-! ## Declarations of different things -/

namespace Declaration

variable {τ π ε : Type} {token : τ} {declaration : Declaration τ π ε}

theorem precedenceOf?_eq_none (h : declaration.declared ≠ .precedenceOf) :
    declaration.precedenceOf? = none := by
  cases declaration with
  | precedenceOf => exact absurd rfl h
  | _ => rfl

theorem order?_eq_none [Ord π] (h : declaration.declared ≠ .order) : declaration.order? = none := by
  cases declaration with
  | order | naturalOrder => exact absurd rfl h
  | _ => rfl

variable [DecidableEq τ]

theorem precedence?_eq_none (h : declaration.declared ≠ .precedence token) :
    declaration.precedence? token = none := by
  cases declaration with
  | precedence => exact if_neg fun heq ↦ h (congrArg Declared.precedence heq.symm)
  | _ => rfl

theorem starter?_eq_none (h : declaration.declared ≠ .starter token) :
    declaration.starter? token = none := by
  cases declaration with
  | starter | starterWith => exact if_neg fun heq ↦ h (congrArg Declared.starter heq.symm)
  | _ => rfl

theorem follower?_eq_none (h : declaration.declared ≠ .follower token) :
    declaration.follower? token = none := by
  cases declaration with
  | follower | followerWith => exact if_neg fun heq ↦ h (congrArg Declared.follower heq.symm)
  | _ => rfl

end Declaration

section

variable {τ π ε : Type} {first second : Declaration τ π ε}

/-- Of two declarations of different things at most one tells of a thing. -/
theorem lastOf_swap_of_declared_ne {α : Type} {tell : Declaration τ π ε → Option α}
    {thing : Declared τ}
    (h : ∀ {declaration : Declaration τ π ε}, declaration.declared ≠ thing →
      tell declaration = none)
    (hne : first.declared ≠ second.declared) (earlier later : List (Declaration τ π ε)) :
    lastOf tell (earlier ++ first :: second :: later) =
      lastOf tell (earlier ++ second :: first :: later) := by
  apply lastOf_swap
  by_cases hfirst : first.declared = thing
  · exact .inr (h fun hsecond ↦ hne (hfirst.trans hsecond.symm))
  · exact .inl (h hfirst)

theorem exists_mem_swap {p : Declaration τ π ε → Prop} (earlier later : List (Declaration τ π ε)) :
    (∃ declaration ∈ earlier ++ first :: second :: later, p declaration) ↔
      ∃ declaration ∈ earlier ++ second :: first :: later, p declaration := by
  have hperm := (List.Perm.swap second first later).append_left earlier
  exact exists_congr fun declaration ↦ and_congr_left' hperm.mem_iff

variable [DecidableEq τ]

theorem ofLast_swap (hne : first.declared ≠ second.declared) (order : π → π → Ordering)
    (earlier later : List (Declaration τ π ε)) :
    Grammar.ofLast order (earlier ++ first :: second :: later) =
      Grammar.ofLast order (earlier ++ second :: first :: later) := by
  unfold Grammar.ofLast
  simp only [lastOf_swap_of_declared_ne Declaration.precedence?_eq_none hne,
    lastOf_swap_of_declared_ne Declaration.precedenceOf?_eq_none hne,
    lastOf_swap_of_declared_ne Declaration.starter?_eq_none hne,
    lastOf_swap_of_declared_ne Declaration.follower?_eq_none hne]

variable [Ord π]

theorem ofSettings?_swap (hne : first.declared ≠ second.declared)
    (earlier later : List (Declaration τ π ε)) :
    Grammar.ofSettings? ((earlier ++ first :: second :: later).map Declaration.setting) =
      Grammar.ofSettings? ((earlier ++ second :: first :: later).map Declaration.setting) := by
  by_cases hordered : HasOrder (earlier ++ first :: second :: later)
  case neg =>
    rw [ofSettings?_of_not_hasOrder hordered]
    exact (ofSettings?_of_not_hasOrder (mt (exists_mem_swap earlier later).2 hordered)).symm
  case pos =>
    obtain ⟨order, horder, hcases⟩ := hordered.cases
    have horder' := horder
    rw [lastOf_swap_of_declared_ne Declaration.order?_eq_none hne] at horder'
    rcases hcases with ⟨hprecedence, hbuilt⟩ | ⟨hprecedence, hbuilt⟩ <;> rw [hbuilt]
    · rw [HasPrecedence, exists_mem_swap] at hprecedence
      rw [ofSettings?_of_hasPrecedence horder' hprecedence, ofLast_swap hne]
    · rw [HasPrecedence, exists_mem_swap] at hprecedence
      rw [ofSettings?_of_not_hasPrecedence horder' hprecedence]

/-- Without a comparator, and then without any precedences, there is no grammar. Else it is the one
in which the last declaration of each thing holds, where what is declared for a token goes before
the function for all tokens, in whatever order the two came. Two declarations of different things in
a row may change places. -/
theorem ofSettings?_of_last_declarations (declarations : List (Declaration τ π ε)) :
    let built := Grammar.ofSettings? (declarations.map Declaration.setting)
    (built = .error (.missing .comparator) ↔ ¬HasOrder declarations) ∧
    (HasOrder declarations →
      (built = .error (.missing .precedence) ↔ ¬HasPrecedence declarations)) ∧
    (HasOrder declarations → HasPrecedence declarations →
      ∃ order, lastOf Declaration.order? declarations = some order ∧
        built = .ok (Grammar.ofLast order declarations)) ∧
    (∀ g token level, built = .ok g →
      lastOf (Declaration.precedence? token) declarations = some level →
        g.precedence token = some level) ∧
    ∀ earlier first second later, declarations = earlier ++ first :: second :: later →
      first.declared ≠ second.declared →
        Grammar.ofSettings? ((earlier ++ second :: first :: later).map Declaration.setting) =
          built := by
  intro built
  have hswap : ∀ earlier first second later,
      declarations = earlier ++ first :: second :: later → first.declared ≠ second.declared →
        Grammar.ofSettings? ((earlier ++ second :: first :: later).map Declaration.setting) =
          built := by
    rintro earlier first second later rfl hne
    exact ofSettings?_swap hne.symm earlier later
  by_cases hordered : HasOrder declarations
  case neg =>
    have hbuilt : built = .error (.missing .comparator) := ofSettings?_of_not_hasOrder hordered
    exact ⟨iff_of_true hbuilt hordered, fun h ↦ absurd h hordered, fun h ↦ absurd h hordered,
      fun g token level hg ↦ (nomatch hbuilt.symm.trans hg), hswap⟩
  case pos =>
    obtain ⟨order, horder, ⟨hprecedence, hbuilt⟩ | ⟨hprecedence, hbuilt⟩⟩ := hordered.cases
    · refine ⟨iff_of_false (fun h ↦ nomatch hbuilt.symm.trans h) (not_not_intro hordered),
        fun _ ↦ iff_of_false (fun h ↦ nomatch hbuilt.symm.trans h) (not_not_intro hprecedence),
        fun _ _ ↦ ⟨order, horder, hbuilt⟩, fun g token level hg hlevel ↦ ?_, hswap⟩
      obtain rfl := Except.ok.inj (hbuilt.symm.trans hg)
      exact Option.or_of_isSome (by rw [hlevel]; rfl) |>.trans hlevel
    · exact ⟨iff_of_false (fun h ↦ nomatch hbuilt.symm.trans h) (not_not_intro hordered),
        fun _ ↦ iff_of_true hbuilt hprecedence, fun _ h ↦ absurd h hprecedence,
        fun g token level hg ↦ (nomatch hbuilt.symm.trans hg), hswap⟩

/-- A precedence for one token stands in front of a function for all tokens, and the levels' own
order comes behind another comparator. -/
theorem ofSettings?_of_entry_before_function :
    ∃ g : Grammar String Nat Int,
      Grammar.ofSettings? (([.precedence "+" 0, .order fun a b ↦ compare b a,
        .precedenceOf fun _ ↦ some 1, .naturalOrder] : List (Declaration String Nat Int)).map
          Declaration.setting) = .ok g ∧
      g.precedence "+" = some 0 ∧ g.precedence "-" = some 1 ∧ g.order 0 1 = .lt := by
  obtain ⟨-, -, hbuilt, hentry, -⟩ := ofSettings?_of_last_declarations
    ([.precedence "+" 0, .order fun a b ↦ compare b a, .precedenceOf fun _ ↦ some 1,
      .naturalOrder] : List (Declaration String Nat Int))
  obtain ⟨order, horder, hbuilt⟩ :=
    hbuilt ⟨.naturalOrder, by simp, nofun⟩ ⟨.precedence "+" 0, by simp, .inl nofun⟩
  obtain rfl : compare = order := Option.some.inj horder
  exact ⟨_, hbuilt, hentry _ "+" 0 hbuilt rfl, rfl, rfl⟩

end

end OperatorGrammar
