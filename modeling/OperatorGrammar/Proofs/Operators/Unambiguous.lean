import OperatorGrammar.Proofs.Operators.Tree

/-!
# Well-formed trees are determined by their tokens

Reading a list of tokens from left to right, a tree grows for as long as the next token binds. There
is one way to do this at most, and it ends with the well-formed tree that the tokens begin with,
unless this tree could be continued.
-/

namespace OperatorGrammar.Operators

variable {τ π : Type} {ops : Operators τ π} {min : π} {tree : Tree τ}

/-- Reading `tokens` at level `min`, behind the tree on the left if there is one, ends with a tree
and leaves the tokens behind it. -/
inductive Reads (ops : Operators τ π) :
    π → Option (Tree τ) → List (Token τ) → Tree τ → List (Token τ) → Prop where
  | leaf {min : π} {token : Token τ} {tokens rest : List (Token τ)} {tree : Tree τ} :
      ops.opening token.kind = some .leaf →
      Reads ops min (some (.leaf token)) tokens tree rest →
      Reads ops min none (token :: tokens) tree rest
  | unary {min level : π} {operator : Token τ} {operand tree : Tree τ}
      {tokens tokens' rest : List (Token τ)} :
      ops.opening operator.kind = some (.unary level) →
      Reads ops level none tokens operand tokens' →
      Reads ops min (some (.unary operator operand)) tokens' tree rest →
      Reads ops min none (operator :: tokens) tree rest
  | bracket {min level : π} {opener closer : Token τ} {inner tree : Tree τ}
      {tokens tokens' rest : List (Token τ)} :
      ops.opening opener.kind = some (.bracket level closer.kind) →
      Reads ops level none tokens inner (closer :: tokens') →
      Reads ops min (some (.bracket opener inner closer)) tokens' tree rest →
      Reads ops min none (opener :: tokens) tree rest
  | binary {min level : π} {operator : Token τ} {left right tree : Tree τ}
      {tokens tokens' rest : List (Token τ)} :
      ops.following operator.kind = some (.binary level) → ops.binds min operator.kind = true →
      Reads ops level none tokens right tokens' →
      Reads ops min (some (.binary operator left right)) tokens' tree rest →
      Reads ops min (some left) (operator :: tokens) tree rest
  | trailing {min : π} {operator : Token τ} {operand tree : Tree τ}
      {tokens rest : List (Token τ)} :
      ops.following operator.kind = some .trailing → ops.binds min operator.kind = true →
      Reads ops min (some (.trailing operator operand)) tokens tree rest →
      Reads ops min (some operand) (operator :: tokens) tree rest
  | done {min : π} {tree : Tree τ} {rest : List (Token τ)} :
      (∀ token ∈ rest.head?, ops.binds min token.kind = false) →
      Reads ops min (some tree) rest tree rest

/-- The next token leaves no choice. -/
theorem Reads.unique {left? : Option (Tree τ)} {tokens rest rest' : List (Token τ)}
    {tree' : Tree τ} (h : ops.Reads min left? tokens tree rest)
    (h' : ops.Reads min left? tokens tree' rest') : tree = tree' ∧ rest = rest' := by
  induction h generalizing tree' rest' with
  | leaf hleaf _ ih =>
    cases h' with
    | leaf _ htree => exact ih htree
    | unary hunary => simp [hleaf] at hunary
    | bracket hbracket => simp [hleaf] at hbracket
  | unary hunary _ _ ihoperand ih =>
    cases h' with
    | leaf hleaf => simp [hunary] at hleaf
    | unary hunary' hoperand htree =>
      obtain rfl : _ = _ := by simpa [hunary] using hunary'
      obtain ⟨rfl, rfl⟩ := ihoperand hoperand
      exact ih htree
    | bracket hbracket => simp [hunary] at hbracket
  | bracket hbracket _ _ ihinner ih =>
    cases h' with
    | leaf hleaf => simp [hbracket] at hleaf
    | unary hunary => simp [hbracket] at hunary
    | bracket hbracket' hinner htree =>
      obtain ⟨rfl, -⟩ : _ = _ ∧ _ = _ := by simpa [hbracket] using hbracket'
      obtain ⟨rfl, hrest⟩ := ihinner hinner
      obtain ⟨rfl, rfl⟩ := List.cons.inj hrest
      exact ih htree
  | binary hbinary hbinds _ _ ihright ih =>
    cases h' with
    | binary hbinary' _ hright htree =>
      obtain rfl : _ = _ := by simpa [hbinary] using hbinary'
      obtain ⟨rfl, rfl⟩ := ihright hright
      exact ih htree
    | trailing htrailing => simp [hbinary] at htrailing
    | done hend => simp [hbinds] at hend
  | trailing htrailing hbinds _ ih =>
    cases h' with
    | binary hbinary => simp [htrailing] at hbinary
    | trailing _ _ htree => exact ih htree
    | done hend => simp [hbinds] at hend
  | done hend =>
    cases h' with
    | binary _ hbinds => simp [hbinds] at hend
    | trailing _ hbinds => simp [hbinds] at hend
    | done => exact ⟨rfl, rfl⟩

/-- Nothing in front of `rest` continues a tree that stands where level `min` is asked for. -/
def Complete (ops : Operators τ π) (min : π) (tree : Tree τ) (rest : List (Token τ)) : Prop :=
  ∀ token ∈ rest.head?, ops.binds min token.kind = false ∧ ops.Closed tree token.kind

theorem Complete.reads {rest : List (Token τ)} (h : ops.Complete min tree rest) :
    ops.Reads min (some tree) rest tree rest :=
  .done fun token htoken ↦ (h token htoken).1

/-- Reading the tokens of a well-formed tree goes on with this tree on the left. -/
theorem WellFormed.reads (htree : ops.WellFormed min tree) {tokens rest : List (Token τ)}
    {result : Tree τ} (hclosed : ∀ token ∈ tokens.head?, ops.Closed tree token.kind)
    (h : ops.Reads min (some tree) tokens result rest) :
    ops.Reads min none (tree.yield ++ tokens) result rest := by
  induction htree generalizing tokens result rest with
  | leaf hleaf => exact .leaf hleaf h
  | unary hunary hoperand ih =>
    have hcomplete := fun token htoken ↦ (closed_unary hunary).1 (hclosed token htoken)
    have hread := ih (fun token htoken ↦ (hcomplete token htoken).2) (Complete.reads hcomplete)
    exact .unary hunary hread h
  | @bracket min level opener closer inner hbracket hinner ih =>
    have hinert : ops.Inert closer.kind := ops.close_inert hbracket
    have hcomplete : ops.Complete level inner (closer :: tokens) := by
      rintro _ ⟨⟩
      exact ⟨hinert.binds_eq level, closed_of_inert hinert inner⟩
    have hread := ih (fun token htoken ↦ (hcomplete token htoken).2) hcomplete.reads
    rw [Tree.yield, List.cons_append, List.append_assoc, List.singleton_append]
    exact .bracket hbracket hread h
  | @binary min level operator left right hbinary hbinds hleft hright hedge ihleft ihright =>
    have hcomplete := fun token htoken ↦ (closed_binary hbinary).1 (hclosed token htoken)
    have hread := ihright (fun token htoken ↦ (hcomplete token htoken).2) (Complete.reads hcomplete)
    rw [Tree.yield, List.append_assoc, List.cons_append]
    apply ihleft _ (.binary hbinary hbinds hread h)
    rintro _ ⟨⟩
    exact hedge
  | trailing htrailing hbinds hoperand hedge ih =>
    rw [Tree.yield, List.append_assoc, List.singleton_append]
    apply ih _ (.trailing htrailing hbinds h)
    rintro _ ⟨⟩
    exact hedge

/-- Of all well-formed trees that a list of tokens begins with, one is complete. -/
theorem eq_of_yield_append_eq {tree' : Tree τ} {rest rest' : List (Token τ)}
    (htree : ops.WellFormed min tree) (hrest : ops.Complete min tree rest)
    (htree' : ops.WellFormed min tree') (hrest' : ops.Complete min tree' rest')
    (h : tree.yield ++ rest = tree'.yield ++ rest') : tree = tree' ∧ rest = rest' := by
  have hread := htree.reads (fun token htoken ↦ (hrest token htoken).2) hrest.reads
  have hread' := htree'.reads (fun token htoken ↦ (hrest' token htoken).2) hrest'.reads
  rw [← h] at hread'
  exact hread.unique hread'

/-- A well-formed tree is determined by its tokens. -/
theorem eq_of_yield_eq {tree' : Tree τ} (htree : ops.WellFormed min tree)
    (htree' : ops.WellFormed min tree') (h : tree.yield = tree'.yield) : tree = tree' := by
  have hnil (tree : Tree τ) : ops.Complete min tree [] := by simp [Complete]
  have hyield : tree.yield ++ [] = tree'.yield ++ [] := by rw [h]
  exact (eq_of_yield_append_eq htree (hnil tree) htree' (hnil tree') hyield).1

end OperatorGrammar.Operators
