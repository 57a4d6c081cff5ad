import Spreadsheet.Proofs.Formula.Descent

/-! The routines that scan as they go come to an end on every text and under all limits, and find
the same as the reading of all tokens at once. On the way they consume each token once at most. -/

namespace Spreadsheet.Formula

theorem toList_scanNext_append (s : List Char) :
    (scanNext s).1.toList ++ tokens (scanNext s).2 = tokens s := by
  cases found : scan? s with
  | none => rw [scanNext_of_none found, tokens_eq_nil found]; exact tokens_nil
  | some scanned => rw [scanNext_of_some found, tokens_eq_cons found]; rfl

theorem left_of_scanNext_eq_none {s : List Char} (none : (scanNext s).1 = none) :
    (scanNext s).2 = [] := by
  cases found : scan? s with
  | none => rw [scanNext_of_none found]
  | some scanned => rw [scanNext_of_some found] at none; cases none

namespace Progress

/-- Tokens from the one where a reading stands. -/
def pending (progress : Progress) : List Token := progress.current.toList ++ tokens progress.left

def cursor (progress : Progress) : Cursor :=
  ⟨progress.pending, progress.depth, progress.operators⟩

/-- No token is missing where some text is left. -/
def Ready (progress : Progress) : Prop := progress.current = none → progress.left = []

/-- The tokens of the text, consumed or not. -/
def stream (progress : Progress) : List Token := progress.consumed ++ progress.pending

variable {start stop later : Progress}

theorem ready_start (s : List Char) : (Progress.start s).Ready := left_of_scanNext_eq_none

@[simp] theorem pending_start (s : List Char) : (Progress.start s).pending = tokens s :=
  toList_scanNext_append s

theorem ready_next (progress : Progress) : progress.next.Ready := left_of_scanNext_eq_none

@[simp] theorem pending_next : start.next.pending = tokens start.left :=
  toList_scanNext_append start.left

@[simp] theorem stream_next : start.next.stream = start.stream := by
  unfold stream
  rw [pending_next]
  exact List.append_assoc ..

theorem Ready.pending_of_none (ready : start.Ready) (none : start.current = none) :
    start.pending = [] := by
  unfold pending
  rw [none, ready none]
  exact tokens_nil

theorem pending_of_some {token : Token} (some : start.current = some token) :
    start.pending = token :: tokens start.left := by
  unfold pending
  rw [some]
  rfl

theorem Ready.head?_pending (ready : start.Ready) : start.pending.head? = start.current := by
  cases found : start.current with
  | none => rw [ready.pending_of_none found]; rfl
  | some token => rw [pending_of_some found]; rfl

theorem Ready.tail_pending (ready : start.Ready) : start.pending.tail = start.next.pending := by
  rw [pending_next]
  cases found : start.current with
  | none => rw [ready.pending_of_none found, ready found]; exact tokens_nil.symm
  | some token => rw [pending_of_some found]; rfl

theorem Ready.cursor_next (ready : start.Ready) :
    start.next.cursor = { start.cursor with rest := start.cursor.rest.tail } := by
  unfold cursor
  rw [← ready.tail_pending]
  rfl

/-- Where a reading may stand after it has read something, on the level where it began. -/
structure Behind (stop start : Progress) : Prop where
  ready : stop.Ready
  stream : stop.stream = start.stream
  depth : stop.depth = start.depth
  shorter : stop.pending.length ≤ start.pending.length

namespace Behind

theorem refl (ready : start.Ready) : Behind start start := ⟨ready, rfl, rfl, Nat.le_refl _⟩

theorem trans (second : Behind later stop) (first : Behind stop start) : Behind later start :=
  ⟨second.ready, second.stream.trans first.stream, second.depth.trans first.depth,
    second.shorter.trans first.shorter⟩

theorem next (ready : start.Ready) : Behind start.next start where
  ready := ready_next start
  stream := stream_next
  depth := rfl
  shorter := by
    rw [← ready.tail_pending, List.length_tail]
    exact Nat.sub_le _ _

end Behind

end Progress

open Progress

/-- The end that a reading comes to, beside the result of a bounded one: the same value or error,
and as long as it goes on the same tokens left. -/
inductive Agrees (start : Progress) :
    Except SyntaxError (α × Cursor) → Option (Except SyntaxError α × Progress) → Prop
  | fails {error : SyntaxError} {stop : Progress} (stream : stop.stream = start.stream) :
      Agrees start (.error error) (some (.error error, stop))
  | finds {a : α} {stop : Progress} (behind : Behind stop start) :
      Agrees start (.ok (a, stop.cursor)) (some (.ok a, stop))

theorem Agrees.mono {start stop : Progress} {result : Except SyntaxError (α × Cursor)}
    {ending : Option (Except SyntaxError α × Progress)} (behind : Behind stop start)
    (agrees : Agrees stop result ending) : Agrees start result ending := by
  cases agrees with
  | fails stream => exact .fails (stream.trans behind.stream)
  | finds later => exact .finds (later.trans behind)

/-- With at most so many tokens ahead the one reading comes to an end, and agrees with the other. -/
def Follows (n : Nat) (descent : Descent α) (reader : Reader α) : Prop :=
  ∀ start : Progress, start.Ready → start.pending.length ≤ n →
    Agrees start (reader.run start.cursor) (descent.runFrom start)

/-- The same where the token that comes next is known. -/
def FollowsAt (n : Nat) (found : Option Token) (descent : Descent α) (reader : Reader α) : Prop :=
  ∀ start : Progress, start.Ready → start.pending.length ≤ n → start.current = found →
    Agrees start (reader.run start.cursor) (descent.runFrom start)

theorem run_nested (limits : Limits) (reader : Reader α) (cursor : Cursor) :
    (Reader.nested limits reader).run cursor =
      if limits.depth < cursor.depth + 1 then .error (.tooDeep limits.depth)
      else
        (reader.run { cursor with depth := cursor.depth + 1 }).map fun found =>
          (found.1, { found.2 with depth := cursor.depth }) := by
  change StateT.run (ite (limits.depth < cursor.depth + 1) _ _) cursor = _
  split
  next => rfl
  next =>
    change reader.run { cursor with depth := cursor.depth + 1 } >>= _ = _
    cases reader.run { cursor with depth := cursor.depth + 1 } <;> rfl

theorem run_operator (limits : Limits) (cursor : Cursor) :
    (Reader.operator limits).run cursor =
      if limits.operators < cursor.operators + 1 then .error (.tooManyOperators limits.operators)
      else
        .ok ((), { cursor with rest := cursor.rest.tail, operators := cursor.operators + 1 }) := by
  change StateT.run (ite (limits.operators < cursor.operators + 1) _ _) cursor = _
  split <;> rfl

namespace Follows

variable {n : Nat} {found : Option Token} {descent : Descent α} {reader : Reader α}

theorem followsAt (follows : Follows n descent reader) : FollowsAt n found descent reader :=
  fun start ready short _ => follows start ready short

theorem pure (a : α) : Follows n (Pure.pure a) (Pure.pure a) :=
  fun _ ready _ => .finds (.refl ready)

theorem throw (error : SyntaxError) :
    Follows n (throw error : Descent α) (throw error : Reader α) := fun _ _ _ => .fails rfl

theorem bind {after : α → Descent β} {after' : α → Reader β} (first : Follows n descent reader)
    (later : ∀ a, Follows n (after a) (after' a)) :
    Follows n (descent >>= after) (reader >>= after') := by
  intro start ready short
  have agrees := first start ready short
  rw [Descent.runFrom_bind, StateT.run_bind]
  generalize reader.run start.cursor = result at agrees ⊢
  generalize descent.runFrom start = ending at agrees ⊢
  cases agrees with
  | fails stream => exact .fails stream
  | finds behind => exact (later _ _ behind.ready (behind.shorter.trans short)).mono behind

/-- Where the token is looked for, the two see the same one. -/
theorem peek {after : Option Token → Descent β} {after' : Option Token → Reader β}
    (later : ∀ found, FollowsAt n found (after found) (after' found)) :
    Follows n (Descent.peek >>= after) (Reader.peek >>= after') := by
  intro start ready short
  have seen : (Reader.peek >>= after').run start.cursor =
      (after' start.current).run start.cursor := by
    rw [← ready.head?_pending]
    rfl
  rw [seen]
  exact later start.current start ready short rfl

theorem test {token : Token} {other : Descent α} {other' : Reader α}
    (taken : FollowsAt n (some token) descent reader) (left : Follows n other other') :
    Follows n (Descent.peek >>= fun found => if found = some token then descent else other)
      (Reader.peek >>= fun found => if found = some token then reader else other') := by
  refine peek fun found => ?_
  by_cases same : found = some token
  · rw [if_pos same, if_pos same, same]
    exact taken
  · rw [if_neg same, if_neg same]
    exact left.followsAt

/-- Without tokens ahead there is nothing to look for. -/
theorem ended {after : Option Token → Descent α} (ends : Follows 0 (after none) reader) :
    Follows 0 (Descent.peek >>= after) reader := by
  intro start ready short
  have none : start.current = none := by
    rw [← ready.head?_pending, List.length_eq_zero_iff.mp (Nat.le_zero.mp short)]
    rfl
  change Agrees start _ ((after start.current).runFrom start)
  rw [none]
  exact ends start ready short

theorem advance : Follows n Descent.advance Reader.advance := by
  intro start ready short
  change Agrees start (.ok ((), { start.cursor with rest := start.cursor.rest.tail })) _
  rw [← ready.cursor_next]
  exact .finds (.next ready)

theorem expect (wanted : Mark) : Follows n (Descent.expect wanted) (Reader.expect wanted) := by
  refine peek fun found => ?_
  split
  next => exact advance.followsAt
  next => exact (throw _).followsAt

variable {limits : Limits}

theorem nested (follows : Follows n descent reader) :
    Follows n (Descent.nested limits descent) (Reader.nested limits reader) := by
  intro start ready short
  let inside : Progress := { start with depth := start.depth + 1 }
  have agrees := follows inside ready short
  unfold Descent.nested
  rw [run_nested, Descent.runFrom_bind, Descent.runFrom_descend]
  change Agrees start (if limits.depth < start.depth + 1 then _ else _) _
  split
  next => exact .fails rfl
  next =>
    change Agrees start ((reader.run inside.cursor).map _) ((descent >>= _).runFrom inside)
    rw [Descent.runFrom_bind]
    generalize reader.run inside.cursor = result at agrees ⊢
    generalize descent.runFrom inside = ending at agrees ⊢
    cases agrees with
    | fails stream => exact .fails stream
    | @finds a stop behind =>
        let outside : Progress := { stop with depth := stop.depth - 1 }
        have level : outside.depth = start.depth := congrArg (· - 1) behind.depth
        have back : Behind outside start := ⟨behind.ready, behind.stream, level, behind.shorter⟩
        have cursor : { stop.cursor with depth := start.depth } = outside.cursor :=
          congrArg (Cursor.mk stop.pending · stop.operators) level.symm
        change Agrees start (.ok (a, { stop.cursor with depth := start.depth })) _
        rw [cursor]
        exact .finds back

end Follows

namespace FollowsAt

variable {n : Nat} {token : Token}

/-- A token that is passed is ahead no more. -/
theorem advance {after : Unit → Descent β} {after' : Unit → Reader β}
    (later : ∀ m < n, Follows m (after ()) (after' ())) :
    FollowsAt n (some token) (Descent.advance >>= after) (Reader.advance >>= after') := by
  intro start ready short stands
  rw [pending_of_some stands, List.length_cons] at short
  have read : (Reader.advance >>= after').run start.cursor =
      (after' ()).run start.next.cursor := by
    rw [ready.cursor_next]
    rfl
  rw [read]
  refine (later _ short start.next (ready_next start) ?_).mono (.next ready)
  rw [pending_next]

theorem operator {limits : Limits} {after : Unit → Descent β} {after' : Unit → Reader β}
    (later : ∀ m < n, Follows m (after ()) (after' ())) :
    FollowsAt n (some token) (Descent.operator limits >>= after)
      (Reader.operator limits >>= after') := by
  intro start ready short stands
  rw [Descent.runFrom_bind, Descent.runFrom_operator, StateT.run_bind, run_operator]
  change Agrees start ((if limits.operators < start.operators + 1 then _ else _) >>= _) _
  split
  next => exact .fails rfl
  next =>
    let counted : Progress := { start with operators := start.operators + 1 }
    have behind : Behind counted start := ⟨ready, rfl, rfl, Nat.le_refl _⟩
    exact (advance later counted ready short stands).mono behind

end FollowsAt

theorem Follows.next {n : Nat} {after : Option Token → Descent β}
    {after' : Option Token → Reader β} (missing : Follows n (after none) (after' none))
    (taken : ∀ token, ∀ m < n, Follows m (after (some token)) (after' (some token))) :
    Follows n (Descent.next >>= after) (Reader.next >>= after') := by
  have split : Follows n
      (Descent.peek >>= fun found => Descent.advance >>= fun _ => after found)
      (Reader.peek >>= fun found => Reader.advance >>= fun _ => after' found) := by
    refine .peek fun found => ?_
    cases found with
    | none => exact (Follows.advance.bind fun _ => missing).followsAt
    | some token => exact .advance (taken token)
  exact split

/-- More calls than this do not follow on one before a token is consumed. -/
def Routine.height : Routine α → Nat
  | .expression => 8
  | .chain .comparison => 7
  | .chain .concatenation => 6
  | .chain .addition => 5
  | .chain _ => 4
  | .power => 3
  | .operand => 2
  | .range => 1
  | .call _ => 9
  | _ => 0

theorem Routine.height_lt : (routine : Routine α) → routine.height < 10
  | .chain tier => by cases tier <;> decide
  | .expression | .chainAfter .. | .power | .operand | .percents _ | .range | .primary | .call _
  | .arguments => by simp only [height]; decide

theorem Routine.height_joint (tier : Tier) : (joint tier).height < (chain tier).height := by
  cases tier <;> decide

/-- With up to so many tokens ahead, a routine comes to an end if ten calls may nest for each of
them, and as many more as it is high. It agrees with the other reading. -/
def Terminates (limits : Limits) (n : Nat) (routine : Routine α) (reader : Reader α) : Prop :=
  ∀ m ≤ n, ∀ deep, 10 * m + routine.height < deep →
    Follows m (Descent.run limits deep routine) reader

namespace Terminates

variable {limits : Limits} {n m deep : Nat} {routine : Routine α} {reader : Reader α}

theorem mono (terminates : Terminates limits n routine reader) (le : m ≤ n) :
    Terminates limits m routine reader := fun k short => terminates k (short.trans le)

theorem of_step (steps : ∀ m ≤ n, ∀ deep, 10 * m + routine.height ≤ deep →
      Follows m (Descent.step limits (Descent.run limits deep) routine) reader) :
    Terminates limits n routine reader := by
  intro m short deep enough
  cases deep with
  | zero => exact absurd enough (Nat.not_lt_zero _)
  | succ deep => exact steps m short deep (Nat.le_of_lt_succ enough)

/-- Until a token is consumed, calls go from a routine to lower ones. -/
theorem below (terminates : Terminates limits n routine reader) (short : m ≤ n) {height : Nat}
    (enough : 10 * m + height ≤ deep) (lower : routine.height < height) :
    Follows m (Descent.run limits deep routine) reader :=
  terminates m short deep (by omega)

/-- Behind a token, they may go to any. -/
theorem behind (terminates : Terminates limits n routine reader) (fewer : n < m) {height : Nat}
    (enough : 10 * m + height ≤ deep) : Follows n (Descent.run limits deep routine) reader := by
  have := routine.height_lt
  exact terminates n (Nat.le_refl n) deep (by omega)

end Terminates

section Loops

variable {limits : Limits}

/-- Every repetition stands behind a token of its own, so no more of them are needed than there
are tokens ahead. -/
theorem percents_terminates {n : Nat} (more : Nat) (within : n ≤ more) (operand : Expr) :
    Terminates limits n (.percents operand) (Reader.percentsAfter limits more operand) := by
  induction more generalizing n operand with
  | zero =>
      refine .of_step fun m short deep enough => ?_
      obtain rfl := Nat.le_zero.mp (short.trans within)
      exact .ended (.pure operand)
  | succ more ih =>
      refine .of_step fun m short deep enough => .test (.operator fun k fewer => ?_) (.pure operand)
      have left : k ≤ more := Nat.le_of_lt_succ (fewer.trans_le (short.trans within))
      exact (ih left _).behind fewer enough

theorem chainAfter_terminates {n : Nat} (more : Nat) (within : n ≤ more) {tier : Tier}
    {operand : Reader Expr} (operands : Terminates limits n (.joint tier) operand) (left : Expr) :
    Terminates limits n (.chainAfter tier left)
      (Reader.chainAfter limits tier.operator? operand more left) := by
  induction more generalizing n left with
  | zero =>
      refine .of_step fun m short deep enough => ?_
      obtain rfl := Nat.le_zero.mp (short.trans within)
      exact .ended (.pure left)
  | succ more ih =>
      refine .of_step fun m short deep enough => .peek fun found => ?_
      cases joins : found.bind tier.operator? with
      | none => exact (Follows.pure left).followsAt
      | some op =>
          obtain ⟨token, rfl, -⟩ := Option.bind_eq_some_iff.mp joins
          refine .operator fun k fewer => ?_
          have here := operands.mono (fewer.le.trans short)
          refine (here.behind fewer enough).bind fun right => ?_
          have left : k ≤ more := Nat.le_of_lt_succ (fewer.trans_le (short.trans within))
          exact (ih left here _).behind fewer enough

theorem chain_terminates (tier : Tier) {n bound : Nat} (within : n ≤ bound) {operand : Reader Expr}
    (operands : Terminates limits n (.joint tier) operand) :
    Terminates limits n (.chain tier) (Reader.chain limits bound tier.operator? operand) := by
  refine .of_step fun m short deep enough => ?_
  refine (operands.below short enough (Routine.height_joint tier)).bind fun first => ?_
  have positive : 0 < (Routine.chain tier).height := Nat.zero_lt_of_lt (Routine.height_joint tier)
  exact (chainAfter_terminates bound within operands first).below short enough positive

end Loops

section Phrases

variable {limits : Limits} {n bound : Nat} (within : n ≤ bound) {phrase : Phrase → Reader Expr}
  (inner : ∀ m < n, ∀ p : Phrase, Terminates limits m p.routine (phrase p))

include inner

theorem arguments_terminates {m : Nat} (below : m ≤ n) (more : Nat) (enough : m ≤ more) :
    Terminates limits m .arguments (readArguments phrase more) := by
  induction more generalizing m with
  | zero =>
      refine .of_step fun k short deep _ => ?_
      obtain rfl := Nat.le_zero.mp (short.trans enough)
      exact .ended (.pure [])
  | succ more ih =>
      refine .of_step fun k short deep deepEnough => .test (.advance fun l fewer => ?_) (.pure [])
      have behind : l < m := fewer.trans_le short
      have expression := (inner l (behind.trans_le below) .expression).behind fewer deepEnough
      have arguments := ih (behind.le.trans below) (Nat.le_of_lt_succ (behind.trans_le enough))
      exact expression.bind fun _ => (arguments.behind fewer deepEnough).bind fun _ => .pure _

include within

theorem call_terminates {m : Nat} (below : m < n) (name : String) :
    Terminates limits m (.call name) (readCall bound phrase name) := by
  refine .of_step fun k short deep enough => ?_
  have expression := (inner m below .expression).below short enough (Nat.lt_succ_self _)
  have arguments :=
    (arguments_terminates inner below.le bound (below.le.trans within)).below short enough
      (Nat.succ_pos _)
  refine (Follows.expect _).bind fun _ => .test (.advance fun l fewer => .pure _) ?_
  refine expression.bind fun first => arguments.bind fun others => ?_
  exact (Follows.expect _).bind fun _ => .pure _

theorem primary_terminates : Terminates limits n .primary (readPrimary limits bound phrase) := by
  refine .of_step fun m short deep enough => .next (.throw _) fun token k fewer => ?_
  have below : k < n := fewer.trans_le short
  cases token with
  | number n => exact .pure _
  | text s => exact .pure _
  | boolean b => exact .pure _
  | reference spelling =>
      change Follows k (Descent.cell spelling) (readCell spelling)
      unfold Descent.cell readCell
      cases Address.read spelling.toList with
      | ok address => exact .pure _
      | error cause => exact .throw _
  | name spelling =>
      have call := (call_terminates within inner below spelling).behind fewer enough
      exact .test call.nested.followsAt (.pure _)
  | invalid fault => exact .throw _
  | mark mark =>
      cases mark with
      | leftParen =>
          have expression := (inner k below .expression).behind fewer enough
          exact expression.bind fun e => (Follows.expect _).bind fun _ => .pure _
      | _ => exact .throw _

theorem range_terminates : Terminates limits n .range (readRange limits bound phrase) := by
  refine .of_step fun m short deep enough => ?_
  have primary := primary_terminates within inner
  refine (primary.below short enough (Nat.lt_succ_self _)).bind fun first => ?_
  refine .test (.advance fun k fewer => ?_) (.pure _)
  refine ((primary.mono (fewer.le.trans short)).behind fewer enough).bind fun last => ?_
  cases first with
  | cell a =>
      cases last with
      | cell b => exact .pure _
      | _ => exact .throw _
  | _ => exact .throw _

theorem operand_terminates : Terminates limits n .operand (readOperand limits bound phrase) := by
  refine .of_step fun m short deep enough => .peek fun found => ?_
  have signed : ∀ k < m, Follows k (Descent.nested limits (Descent.run limits deep .operand))
      (Reader.nested limits (phrase .operand)) := fun k fewer =>
    ((inner k (fewer.trans_le short) .operand).behind fewer enough).nested
  have percents (e : Expr) : Follows m (Descent.run limits deep (.percents e))
      (Reader.percentsAfter limits bound e) :=
    (percents_terminates bound within e).below short enough (Nat.succ_pos _)
  have range := (range_terminates within inner).below short enough (Nat.lt_succ_self _)
  have unsigned := range.bind percents
  cases found with
  | none => exact unsigned.followsAt
  | some token =>
      cases token with
      | mark mark =>
          cases mark with
          | minus => exact .advance fun k fewer => (signed k fewer).bind fun _ => .pure _
          | plus => exact .advance signed
          | _ => exact unsigned.followsAt
      | _ => exact unsigned.followsAt

theorem power_terminates : Terminates limits n .power (readPower limits bound phrase) := by
  refine .of_step fun m short deep enough => ?_
  have operand := (operand_terminates within inner).below short enough (Nat.lt_succ_self _)
  refine operand.bind fun base => .test (.operator fun k fewer => ?_) (.pure _)
  have power := (inner k (fewer.trans_le short) .power).behind fewer enough
  exact power.nested.bind fun _ => .pure _

theorem expression_terminates :
    Terminates limits n .expression (readExpression limits bound phrase) := by
  refine .of_step fun m short deep enough => ?_
  have multiplication :=
    chain_terminates .multiplication within (power_terminates within inner)
  have addition := chain_terminates .addition within multiplication
  have concatenation := chain_terminates .concatenation within addition
  have comparison := chain_terminates .comparison within concatenation
  exact (comparison.below short enough (Nat.lt_succ_self _)).nested

end Phrases

/-- By the number of tokens ahead: a phrase within a phrase has fewer of them. -/
theorem phrase_terminates (limits : Limits) {n bound : Nat} (below : n < bound) (p : Phrase) :
    Terminates limits n p.routine (readPhrase limits bound p) := by
  induction n using Nat.strong_induction_on generalizing bound p with
  | _ n ih =>
      cases bound with
      | zero => exact absurd below (Nat.not_lt_zero n)
      | succ bound =>
          have within := Nat.le_of_lt_succ below
          have inner : ∀ m < n, ∀ p : Phrase,
              Terminates limits m p.routine (readPhrase limits bound p) :=
            fun m fewer p => ih m fewer (fewer.trans_le within) p
          cases p with
          | expression => exact expression_terminates within inner
          | power => exact power_terminates within inner
          | operand => exact operand_terminates within inner

/-- A whole expression with the tokens behind it, of which there should be none. -/
def conclude (e : Expr) : List Token → Except SyntaxError Expr
  | [] => .ok e
  | .invalid fault :: _ => .error (.unreadable fault)
  | token :: _ => .error (.trailing token)

theorem eq_nil_of_conclude {e found : Expr} {behind : List Token}
    (complete : conclude e behind = .ok found) : behind = [] := by
  unfold conclude at complete
  split at complete
  next => rfl
  all_goals cases complete

theorem Progress.Ready.runFrom_finish {stop : Progress} (ready : stop.Ready) (e : Expr) :
    (Descent.finish e).runFrom stop = some (conclude e stop.pending, stop) := by
  obtain ⟨left, current, depth, operators, consumed⟩ := stop
  cases current with
  | none =>
      rw [ready.pending_of_none rfl]
      rfl
  | some token =>
      rw [pending_of_some rfl]
      cases token <;> rfl

section Formula

variable (limits : Limits) (s : List Char) {deep : Nat}

theorem agrees_start (enough : 10 * ((tokens s).length + 1) ≤ deep) :
    Agrees (.start s)
      ((readPhrase limits ((tokens s).length + 1) .expression).run ⟨tokens s, 0, 0⟩)
      ((Descent.run limits deep .expression).runFrom (.start s)) := by
  have room : 10 * (tokens s).length + Phrase.expression.routine.height < deep := by
    change 10 * (tokens s).length + 8 < deep
    omega
  have cursor : (Progress.start s).cursor = ⟨tokens s, 0, 0⟩ :=
    congrArg (Cursor.mk · 0 0) (pending_start s)
  rw [← cursor]
  exact phrase_terminates limits (Nat.lt_add_one _) .expression _ (Nat.le_refl _) deep room
    (.start s) (ready_start s) (pending_start s ▸ Nat.le_refl _)

theorem formula_terminates (enough : 10 * ((tokens s).length + 1) ≤ deep) :
    ∃ stop,
      (Descent.formula limits deep).runFrom (.start s) =
          some (parseTokens limits (tokens s), stop) ∧
        stop.stream = tokens s ∧
        ∀ e, parseTokens limits (tokens s) = .ok e → stop.pending = [] := by
  have agrees := agrees_start limits s enough
  have stream : (Progress.start s).stream = tokens s := pending_start s
  unfold Descent.formula parseTokens
  change ∃ stop, Descent.runFrom (ite ((Progress.start s).current = none) _ _) _ = _ ∧ _
  split
  next none =>
    have empty : tokens s = [] :=
      (pending_start s).symm.trans ((ready_start s).pending_of_none none)
    rw [empty]
    exact ⟨_, rfl, stream.trans empty, nofun⟩
  next some =>
    obtain ⟨token, found⟩ := Option.ne_none_iff_exists'.mp some
    have filled : (tokens s).isEmpty = false := by
      rw [← pending_start, pending_of_some found]
      rfl
    rw [filled, if_neg Bool.false_ne_true]
    change ∃ stop,
      Descent.runFrom (Descent.run limits deep .expression >>= Descent.finish) _ = _ ∧ _
    rw [Descent.runFrom_bind]
    generalize (readPhrase limits ((tokens s).length + 1) .expression).run ⟨tokens s, 0, 0⟩ = result
      at agrees ⊢
    generalize (Descent.run limits deep .expression).runFrom (.start s) = ending at agrees ⊢
    cases agrees with
    | @fails error stop behind => exact ⟨stop, rfl, behind.trans stream, nofun⟩
    | @finds e stop behind =>
        exact ⟨stop, behind.ready.runFrom_finish e, behind.stream.trans stream,
          fun _ => eq_nil_of_conclude⟩

end Formula

/-- From wherever calls of the scanner lead on a text, the next one moves on to a character further
behind or to the end, or else finds the end. The pieces that the calls find are, in order, the whole
text. The routines that scan as they go come to an end on every formula under all limits: their
calls nest at most ten deep for each token and ten more, and they find what the reading of all
tokens at once does. They consume no token twice, and all of them if they succeed. -/
theorem covered_once (formula : String) :
    (∀ calls, Advances formula (leftAfter calls formula.toList)) ∧
      (∃ pieces trail, Divides formula.toList pieces trail) ∧
      ∀ (options : Options) (deep : Nat),
        10 * ((tokens (body formula.toList)).length + 1) ≤ deep →
          ∃ stop, (Descent.formula options.limits deep).runFrom (.start (body formula.toList)) =
              some (parse options.limits formula.toList, stop) ∧
            stop.consumed ++ stop.pending = tokens (body formula.toList) ∧
            ∀ e, parse options.limits formula.toList = .ok e → stop.pending = [] :=
  ⟨fun calls => advances (suffix_leftAfter calls _), exists_divides _,
    fun options _ enough => formula_terminates options.limits _ enough⟩

/-- Under the largest limits, with blanks and a character of two bytes. -/
theorem covered_once_accented :
    ∃ stop, (Descent.formula ⟨UInt64.size - 1, UInt64.size - 1⟩ 40).runFrom
        (.start (body "= \"é\" & a".toList)) =
          some (.ok (.binary .concat (.text "é") (.name "a")), stop) ∧
      stop.consumed = [.text "é", .mark .ampersand, .name "a"] := by
  let options : Options := ⟨.generic, .ofNat (UInt64.size - 1), .ofNat (UInt64.size - 1), 0⟩
  have parses : parse options.limits "= \"é\" & a".toList =
      .ok (.binary .concat (.text "é") (.name "a")) := by cbv
  have scanned : tokens (body "= \"é\" & a".toList) =
      [.text "é", .mark .ampersand, .name "a"] := by cbv
  have enough : 10 * ((tokens (body "= \"é\" & a".toList)).length + 1) ≤ 40 := by
    rw [scanned]
    decide
  obtain ⟨stop, ends, once, all⟩ := (covered_once "= \"é\" & a").2.2 options 40 enough
  rw [all _ parses, List.append_nil, scanned] at once
  rw [parses] at ends
  exact ⟨stop, ends, once⟩

end Spreadsheet.Formula
