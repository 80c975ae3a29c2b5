import OperatorGrammar.Parselet.Levels
import OperatorGrammar.Proofs.Parselet.Correspondence
import OperatorGrammar.Proofs.Parselet.Notated

/-!
# Levels

A parse depends on the precedences and the comparator of its grammar only through which token binds
at which level. So levels may be renamed, turned around or left out wherever all that binds is the
same.
-/

namespace OperatorGrammar

variable {τ π π' ε : Type}

/-- The same move with another level. -/
def Move.mapLevel (f : π → π') : Move τ π ε → Move τ π' ε
  | .ask (.parse level) => .ask (.parse (f level))
  | .ask (.call call) => .ask (.call call)
  | .done result => .done result

/-- The same strategy with other levels. -/
def Strategy.mapLevel (f : π → π') (strategy : Strategy τ π ε) : Strategy τ π' ε :=
  fun heard ↦ (strategy heard).mapLevel f

namespace Grammar

/-- Some strategy of the grammar asks for an expression at this level when it has heard some
answers. -/
inductive Asks (g : Grammar τ π ε) (level : π) : Prop where
  | starter {token : τ} {strategy : Strategy τ π ε} {heard : List (Answer τ ε)} :
      g.starter token = some strategy → strategy heard = .ask (.parse level) → g.Asks level
  | follower {token : τ} {strategy : ε → Strategy τ π ε} {left : ε} {heard : List (Answer τ ε)} :
      g.follower token = some strategy → strategy left heard = .ask (.parse level) → g.Asks level

/-- The grammar whose strategies are the same with other levels. -/
def mapLevel (f : π → π') (order : π' → π' → Ordering) (g : Grammar τ π ε) : Grammar τ π' ε where
  precedence token := (g.precedence token).map f
  order := order
  starter token := (g.starter token).map (Strategy.mapLevel f)
  follower token := (g.follower token).map fun strategy left ↦ Strategy.mapLevel f (strategy left)

/-- The strategies of the second grammar are those of the first one with other levels. -/
structure Relevels (f : π → π') (g : Grammar τ π ε) (g' : Grammar τ π' ε) : Prop where
  starter_eq : ∀ token, g'.starter token = (g.starter token).map (Strategy.mapLevel f)
  follower_eq : ∀ token, g'.follower token =
    (g.follower token).map fun strategy left ↦ Strategy.mapLevel f (strategy left)

end Grammar

namespace Likeness

/-- Only levels may differ. -/
def ofLevel (level : π → π' → Prop) : Likeness τ π π' := ⟨level, Eq, Eq⟩

variable {level : π → π' → Prop}

theorem plain_ofLevel (level : π → π' → Prop) : (ofLevel level : Likeness τ π π').Plain where
  kind_eq _ _ := congrArg Token.kind
  literal_eq _ _ := congrArg Token.literal
  report _ := rfl
  context message _ _ := congrArg (Fault.context message)

theorem results_ofLevel_iff {result result' : Except (Fault τ) ε} :
    (ofLevel level).Results Eq result result' ↔ result = result' := by
  constructor
  · rintro (hvalue | hfault)
    · exact congrArg Except.ok hvalue
    · exact congrArg Except.error hfault
  · rintro rfl
    cases result with
    | error fault => exact .error rfl
    | ok value => exact .ok rfl

theorem replies_ofLevel_iff {reply reply' : Lexer.Reply τ} :
    (ofLevel level).Replies reply reply' ↔ reply = reply' := by
  constructor
  · rintro (_ | htoken | hfault)
    · rfl
    · rcases rel_cases htoken with ⟨rfl, rfl⟩ | ⟨token, _, rfl, rfl, rfl⟩
      · rfl
      · rfl
    · exact congrArg Lexer.Reply.fault hfault
  · rintro rfl
    cases reply with
    | kind kind => exact .kind kind
    | fault fault => exact .fault rfl
    | token token =>
      cases token with
      | none => exact .token .none
      | some token => exact .token (.some rfl)

theorem answers_ofLevel_iff {answer answer' : Answer τ ε} :
    (ofLevel level).Answers answer answer' ↔ answer = answer' := by
  constructor
  · rintro (hresult | hreply)
    · rw [results_ofLevel_iff.1 hresult]
    · rw [replies_ofLevel_iff.1 hreply]
  · rintro rfl
    cases answer with
    | parsed result => exact .parsed (results_ofLevel_iff.2 rfl)
    | reply reply => exact .reply (replies_ofLevel_iff.2 rfl)

theorem forall₂_ofLevel_iff {heard heard' : List (Answer τ ε)} :
    List.Forall₂ (ofLevel level).Answers heard heard' ↔ heard = heard' := by
  have hanswers : ((ofLevel level).Answers : Answer τ ε → Answer τ ε → Prop) = Eq := by
    funext answer answer'
    exact propext answers_ofLevel_iff
  rw [hanswers, List.forall₂_eq_eq_eq]

theorem level_of_moves {like : Likeness τ π π'} {asked : π} {move : Move τ π' ε}
    (h : like.Moves (.ask (.parse asked)) move) : ∃ asked', like.level asked asked' := by
  cases h with
  | parse hlevel => exact ⟨_, hlevel⟩

theorem moves_mapLevel {f : π → π'} {move : Move τ π ε}
    (h : ∀ asked, move = .ask (.parse asked) → level asked (f asked)) :
    (ofLevel level).Moves move (move.mapLevel f) := by
  rcases move with (asked | call) | result
  · exact .parse (h asked rfl)
  · exact .call call
  · exact .done (results_ofLevel_iff.2 rfl)

theorem eq_mapLevel_of_moves {f : π → π'} {move : Move τ π ε} {move' : Move τ π' ε}
    (h : (ofLevel fun asked asked' ↦ asked' = f asked).Moves move move') :
    move' = move.mapLevel f := by
  rcases h with rfl | call | hresult
  · rfl
  · rfl
  · rw [← results_ofLevel_iff.1 hresult]
    rfl

theorem grammars_ofLevel {f : π → π'} {g : Grammar τ π ε} {g' : Grammar τ π' ε}
    (hg : g.Relevels f g') (hasks : ∀ asked, g.Asks asked → level asked (f asked))
    (hbinds : ∀ asked asked', level asked asked' →
      ∀ token, g.binds asked token = g'.binds asked' token) : (ofLevel level).Grammars g g' where
  binds_eq := hbinds
  starter token := by
    rw [hg.starter_eq]
    cases hstarter : g.starter token with
    | none => exact .none
    | some strategy =>
      refine .some fun heard heard' hheard ↦ ?_
      obtain rfl := forall₂_ofLevel_iff.1 hheard
      exact moves_mapLevel fun asked hmove ↦ hasks asked (.starter hstarter hmove)
  follower token := by
    rw [hg.follower_eq]
    cases hfollower : g.follower token with
    | none => exact .none
    | some strategy =>
      refine .some fun left heard heard' hheard ↦ ?_
      obtain rfl := forall₂_ofLevel_iff.1 hheard
      exact moves_mapLevel fun asked hmove ↦ hasks asked (.follower hfollower hmove)

variable [DecidableEq τ]

theorem lexers_ofLevel : (ofLevel level : Likeness τ π π').Lexers Eq where
  call := by
    rintro lx _ rfl call
    exact ⟨replies_ofLevel_iff.2 rfl, rfl⟩
  noStarter := by
    rintro lx _ rfl token
    rfl
  noFollower := by
    rintro lx _ rfl token
    rfl

omit [DecidableEq τ] in
theorem eq_of_rel_ofLevel {parsed parsed' : Option (Grammar.Parsed τ ε)}
    (h : Option.Rel ((ofLevel level : Likeness τ π π').Parses Eq) parsed parsed') :
    parsed = parsed' := by
  rcases rel_cases h with ⟨rfl, rfl⟩ | ⟨found, found', rfl, rfl, hresult, hlast⟩
  · rfl
  · exact congrArg some (Prod.ext (results_ofLevel_iff.1 hresult) hlast)

end Likeness

theorem Move.mapLevel_id (move : Move τ π ε) : move.mapLevel id = move := by
  rcases move with (level | call) | result <;> rfl

theorem Strategy.mapLevel_id :
    (Strategy.mapLevel id : Strategy τ π ε → Strategy τ π ε) = id := by
  funext strategy heard
  exact (strategy heard).mapLevel_id

namespace Grammar

theorem relevels_mapLevel (f : π → π') (order : π' → π' → Ordering) (g : Grammar τ π ε) :
    g.Relevels f (g.mapLevel f order) :=
  ⟨fun _ ↦ rfl, fun _ ↦ rfl⟩

theorem relevels_id {g g' : Grammar τ π ε} (hstarter : g'.starter = g.starter)
    (hfollower : g'.follower = g.follower) : g.Relevels id g' where
  starter_eq token := by rw [hstarter, Strategy.mapLevel_id, Option.map_id_fun, id]
  follower_eq token := by
    have hid : (fun (strategy : ε → Strategy τ π ε) left ↦ Strategy.mapLevel id (strategy left)) =
        id := by
      rw [Strategy.mapLevel_id]
      rfl
    rw [hfollower, hid, Option.map_id_fun, id]

theorem binds_mapLevel (f : π → π') (order : π' → π' → Ordering) (g : Grammar τ π ε) (level : π')
    (token : τ) : (g.mapLevel f order).binds level token =
      (g.precedence token).any fun own ↦ order level (f own) == .lt := by
  rw [binds, mapLevel, Option.any_map]

/-- Levels that negate stand to each other as before when the order is turned around. -/
theorem binds_neg {w : Nat} {g : Grammar τ (BitVec w) ε}
    (horder : g.order = fun a b ↦ LevelOrder.natural.compare a.toInt b.toInt) {level : BitVec w}
    (hlevel : level ≠ .intMin w) {token : τ}
    (hprecedence : ∀ own, g.precedence token = some own → own ≠ .intMin w) :
    g.binds level token =
      (g.mapLevel Neg.neg fun a b ↦ LevelOrder.reverse.compare a.toInt b.toInt).binds (-level)
        token := by
  rw [binds_mapLevel, binds, horder]
  cases hown : g.precedence token with
  | none => rfl
  | some own =>
    have hneg : (compare (-own).toInt (-level).toInt) = compare level.toInt own.toInt := by
      rw [BitVec.toInt_neg_of_ne_intMin hlevel,
        BitVec.toInt_neg_of_ne_intMin (hprecedence own hown)]
      simp only [compare, compareOfLessAndEq, Int.neg_lt_neg_iff, Int.neg_inj, eq_comm]
    simp only [Option.any_some, LevelOrder.compare, hneg]

variable [DecidableEq τ]

/-- Two parses that take the same course at every depth, from every lexer on. -/
def SameParses (g : Grammar τ π ε) (min : π) (g' : Grammar τ π' ε) (min' : π') : Prop :=
  ∀ lx, (∀ depth, g.parse depth min lx = g'.parse depth min' lx) ∧
    g.parseExpression min lx = g'.parseExpression min' lx

theorem Relevels.sameParses {f : π → π'} {g : Grammar τ π ε} {g' : Grammar τ π' ε}
    (hg : g.Relevels f g') {min : π}
    (hbinds : ∀ level, level = min ∨ g.Asks level →
      ∀ token, g.binds level token = g'.binds (f level) token) :
    g.SameParses min g' (f min) := by
  intro lx
  -- only levels that are used are ever compared with a token
  have hgrammars : (Likeness.ofLevel fun level level' ↦
      (level = min ∨ g.Asks level) ∧ level' = f level).Grammars g g' := by
    refine Likeness.grammars_ofLevel hg (fun asked hasked ↦ ⟨.inr hasked, rfl⟩) ?_
    rintro level _ ⟨hlevel, rfl⟩
    exact hbinds level hlevel
  have hdepth (depth : Nat) : g.parse depth min lx = g'.parse depth (f min) lx :=
    Likeness.eq_of_rel_ofLevel
      ((hgrammars.rel Likeness.lexers_ofLevel depth).1 min (f min) lx lx ⟨.inl rfl, rfl⟩ rfl)
  refine ⟨hdepth, ?_⟩
  rw [parseExpression, parseExpression]
  simp only [hdepth]

end Grammar

/-! ## Parselets of the usual kinds -/

section

variable [DecidableEq τ] {naming : Naming τ} {sentinel : τ}

theorem Notated.toStrategy_starter_map (f : π → π') (kind : StarterKind τ π) :
    (Notated.starter naming sentinel (kind.map f)).toStrategy =
      Strategy.mapLevel f (Notated.starter naming sentinel kind).toStrategy := by
  have hplain := Likeness.plain_ofLevel (τ := τ) fun level level' ↦ level' = f level
  have halike := (Notated.routines_starter hplain naming sentinel kind fun _ _ ↦ rfl).toStrategy
  funext heard
  exact Likeness.eq_mapLevel_of_moves (halike (Likeness.forall₂_ofLevel_iff.2 rfl))

theorem Notated.toStrategy_follower_map (f : π → π') (left : String) (kind : FollowerKind τ π) :
    (Notated.follower naming left (kind.map f)).toStrategy =
      Strategy.mapLevel f (Notated.follower naming left kind).toStrategy := by
  have hplain := Likeness.plain_ofLevel (τ := τ) fun level level' ↦ level' = f level
  have halike := (Notated.routines_follower hplain naming left kind fun _ _ ↦ rfl).toStrategy
  funext heard
  exact Likeness.eq_mapLevel_of_moves (halike (Likeness.forall₂_ofLevel_iff.2 rfl))

/-- A starter asks for expressions at its own levels only. -/
theorem Notated.mem_levels_of_starter {kind : StarterKind τ π} {heard : List (Answer τ String)}
    {level : π}
    (h : (Notated.starter naming sentinel kind).toStrategy heard = .ask (.parse level)) :
    level ∈ kind.levels := by
  have hplain := Likeness.plain_ofLevel (τ := τ) fun level (_ : π) ↦ level ∈ kind.levels
  have halike := (Notated.routines_starter hplain naming sentinel kind (f := id)
    fun _ hlevel ↦ hlevel).toStrategy
  have hmoves := halike (Likeness.forall₂_ofLevel_iff.2 (rfl : heard = heard))
  rw [h] at hmoves
  obtain ⟨_, hlevel⟩ := Likeness.level_of_moves hmoves
  exact hlevel

/-- A follower asks for expressions at its own levels only. -/
theorem Notated.mem_levels_of_follower {kind : FollowerKind τ π} {left : String}
    {heard : List (Answer τ String)} {level : π}
    (h : (Notated.follower naming left kind).toStrategy heard = .ask (.parse level)) :
    level ∈ kind.levels := by
  have hplain := Likeness.plain_ofLevel (τ := τ) fun level (_ : π) ↦ level ∈ kind.levels
  have halike := (Notated.routines_follower hplain naming left kind (f := id)
    fun _ hlevel ↦ hlevel).toStrategy
  have hmoves := halike (Likeness.forall₂_ofLevel_iff.2 (rfl : heard = heard))
  rw [h] at hmoves
  obtain ⟨_, hlevel⟩ := Likeness.level_of_moves hmoves
  exact hlevel

end

namespace KindTable

variable [DecidableEq τ] {naming : Naming τ} {sentinel : τ}

theorem relevels {f : π → π'} {table : KindTable τ π} {table' : KindTable τ π'}
    (hstarter : ∀ token, table'.starter token = (table.starter token).map (StarterKind.map f))
    (hfollower : ∀ token, table'.follower token = (table.follower token).map (FollowerKind.map f)) :
    (table.grammar naming sentinel).Relevels f (table'.grammar naming sentinel) where
  starter_eq token := by
    simp only [grammar, hstarter, Option.map_map]
    congr 1
    funext kind
    exact Notated.toStrategy_starter_map f kind
  follower_eq token := by
    simp only [grammar, hfollower, Option.map_map]
    congr 1
    funext kind left
    exact Notated.toStrategy_follower_map f left kind

theorem mem_levels_of_asks {table : KindTable τ π} {level : π}
    (h : (table.grammar naming sentinel).Asks level) :
    (∃ token kind, table.starter token = some kind ∧ level ∈ kind.levels) ∨
      ∃ token kind, table.follower token = some kind ∧ level ∈ kind.levels := by
  obtain @⟨token, _, heard, hstarter, hmove⟩ | @⟨token, _, left, heard, hfollower, hmove⟩ := h
  · obtain ⟨kind, hkind, rfl⟩ := Option.map_eq_some_iff.1 hstarter
    exact .inl ⟨token, kind, hkind, Notated.mem_levels_of_starter hmove⟩
  · obtain ⟨kind, hkind, rfl⟩ := Option.map_eq_some_iff.1 hfollower
    exact .inr ⟨token, kind, hkind, Notated.mem_levels_of_follower hmove⟩

end KindTable

theorem mem_of_lookup {α β : Type} [DecidableEq α] {entries : List (α × β)} {a : α} {b : β}
    (h : entries.lookup a = some b) : (a, b) ∈ entries := by
  obtain ⟨before, after, rfl, -⟩ := List.lookup_eq_some_iff.1 h
  simp

namespace Grammar

variable [DecidableEq τ]

/-- Where all that binds is the same, so are all parses: with other levels and another comparator,
when the natural order of signed integers is turned around and no level is the least of them, and
without a precedence that is above no level that is used. -/
theorem sameParses_of_binds_eq :
    (∀ (π π' : Type) (f : π → π') (g : Grammar τ π ε) (g' : Grammar τ π' ε) (min : π),
      g.Relevels f g' →
      (∀ level, level = min ∨ g.Asks level →
        ∀ token, g.binds level token = g'.binds (f level) token) →
      g.SameParses min g' (f min)) ∧
    (∀ (w : Nat) (g : Grammar τ (BitVec w) ε) (min : BitVec w),
      (g.order = fun a b ↦ LevelOrder.natural.compare a.toInt b.toInt) →
      (∀ level, (level = min ∨ g.Asks level ∨ ∃ token, g.precedence token = some level) →
        level ≠ .intMin w) →
      g.SameParses min
        (g.mapLevel Neg.neg fun a b ↦ LevelOrder.reverse.compare a.toInt b.toInt) (-min)) ∧
    ∀ (π : Type) (g : Grammar τ π ε) (min : π) (token : τ) (own : π),
      g.precedence token = some own →
      (∀ level, level = min ∨ g.Asks level → g.order level own ≠ .lt) →
      g.SameParses min { g with precedence := Function.update g.precedence token none } min := by
  refine ⟨?rename, ?negate, ?drop⟩
  case rename =>
    intro π π' f g g' min hg hbinds
    exact hg.sameParses hbinds
  case negate =>
    intro w g min horder hleast
    refine (relevels_mapLevel Neg.neg _ g).sameParses fun level hlevel token ↦ ?_
    exact binds_neg horder (hleast level (hlevel.imp_right .inl)) fun own hown ↦
      hleast own (.inr (.inr ⟨token, hown⟩))
  case drop =>
    intro π g min token own hown habove
    have hsame : g.Relevels id { g with precedence := Function.update g.precedence token none } :=
      relevels_id rfl rfl
    refine hsame.sameParses fun level hlevel token' ↦ ?_
    by_cases htoken : token' = token
    · subst htoken
      simpa [binds, hown] using habove level hlevel
    · simp [binds, Function.update_of_ne htoken]

/-- Sums and products with lower levels binding tighter, with negative levels, or without a
precedence for the end of the text. -/
theorem sameParses_of_turned_levels :
    ∃ lexicon, Lexicon.ofRules? "end" [⟨"n", "1"⟩, ⟨"+", "[+]"⟩, ⟨"*", "[*]"⟩] = .ok lexicon ∧
      let naming : Naming String := ⟨id, id⟩
      let table : KindTable String (BitVec 8) :=
        { precedence := fun token ↦ [("end", 0), ("+", 1), ("*", 2)].lookup token
          order := fun a b ↦ LevelOrder.natural.compare a.toInt b.toInt
          starter := fun token ↦ [("n", .leaf)].lookup token
          follower := fun token ↦ [("+", .binary 1), ("*", .binary 2)].lookup token }
      let lower : KindTable String Int :=
        { precedence := fun token ↦ [("end", 100), ("+", 2), ("*", 1)].lookup token
          order := LevelOrder.reverse.compare
          starter := fun token ↦ [("n", .leaf)].lookup token
          follower := fun token ↦ [("+", .binary 2), ("*", .binary 1)].lookup token }
      let g := table.grammar naming "end"
      (g.parse 12 0 (Lexer.ofText lexicon none "1+1*1")).map Prod.fst =
        some (.ok "(+ [n 1] (* [n 1] [n 1]))") ∧
      g.SameParses 0 (lower.grammar naming "end") 100 ∧
      g.SameParses 0
        (g.mapLevel Neg.neg fun a b ↦ LevelOrder.reverse.compare a.toInt b.toInt) (-0) ∧
      g.SameParses 0 { g with precedence := Function.update g.precedence "end" none } 0 := by
  let lexicon : Lexicon String :=
    ⟨"end", .alt (.group 1 (.literal ['1']))
      (.alt (.group 2 (.literal ['+'])) (.group 3 (.literal ['*']))),
      [(1, "n"), (2, "+"), (3, "*")]⟩
  have hrules : Lexicon.ofRules? "end" [⟨"n", "1"⟩, ⟨"+", "[+]"⟩, ⟨"*", "[*]"⟩] = .ok lexicon := by
    cbv
  refine ⟨lexicon, hrules, ?_⟩
  intro naming table lower g
  have hlevels (level : BitVec 8)
      (h : level = 0 ∨ g.Asks level ∨ ∃ token, g.precedence token = some level) :
      level = 0 ∨ level = 1 ∨ level = 2 := by
    rcases h with hmin | hasks | ⟨token, hown⟩
    · exact .inl hmin
    · obtain ⟨token, kind, hkind, hlevel⟩ | ⟨token, kind, hkind, hlevel⟩ :=
        KindTable.mem_levels_of_asks hasks
      · obtain ⟨-, rfl⟩ := Prod.mk.inj (List.mem_singleton.1 (mem_of_lookup hkind))
        cases hlevel
      · rcases mem_of_lookup hkind with _ | ⟨_, _ | ⟨_, hrest⟩⟩
        · exact .inr (.inl (List.mem_singleton.1 hlevel))
        · exact .inr (.inr (List.mem_singleton.1 hlevel))
        · cases hrest
    · rcases mem_of_lookup hown with _ | ⟨_, _ | ⟨_, _ | ⟨_, hrest⟩⟩⟩
      · exact .inl rfl
      · exact .inr (.inl rfl)
      · exact .inr (.inr rfl)
      · cases hrest
  have hused (level : BitVec 8) (h : level = 0 ∨ g.Asks level) :
      level = 0 ∨ level = 1 ∨ level = 2 :=
    hlevels level (h.imp_right .inl)
  have hparse : (g.parse 12 0 (Lexer.ofText lexicon none "1+1*1")).map Prod.fst =
      some (.ok "(+ [n 1] (* [n 1] [n 1]))") := by
    dsimp only [g, table, naming, lexicon]
    cbv
  let f : BitVec 8 → Int := fun level ↦ if level = 0 then 100 else 3 - level.toInt
  have hrelevels : g.Relevels f (lower.grammar naming "end") := by
    refine KindTable.relevels (fun token ↦ ?_) fun token ↦ ?_
    · simp only [table, lower, List.lookup_cons, List.lookup_nil]
      split <;> rfl
    · simp only [table, lower, List.lookup_cons, List.lookup_nil]
      split
      · rfl
      · split <;> rfl
  have hbinds (level : BitVec 8) (hlevel : level = 0 ∨ g.Asks level) (token : String) :
      g.binds level token = (lower.grammar naming "end").binds (f level) token := by
    simp only [binds, g, KindTable.grammar, table, lower, List.lookup_cons, List.lookup_nil]
    obtain rfl | rfl | rfl := hused level hlevel <;> (repeat' split) <;> rfl
  obtain ⟨hrename, hnegate, hdrop⟩ := sameParses_of_binds_eq (τ := String) (ε := String)
  refine ⟨hparse, hrename _ _ f g _ 0 hrelevels hbinds, ?_, ?_⟩
  · refine hnegate 8 g 0 rfl fun level hlevel ↦ ?_
    obtain rfl | rfl | rfl := hlevels level hlevel <;> decide
  · refine hdrop _ g 0 "end" 0 rfl fun level hlevel ↦ ?_
    obtain rfl | rfl | rfl := hused level hlevel <;> decide

end Grammar

end OperatorGrammar
