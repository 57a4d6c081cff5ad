import Spreadsheet.Proofs.Evaluation.Failure
import Spreadsheet.Proofs.Formula.Place

/-! Places of a tree that its evaluation never comes to. -/

namespace Spreadsheet

open Spreadsheet.Formula

variable {σ : Type} {α β : Type}

namespace Metered

/-- The state that a computation ends in, if it ends as wanted. -/
def ending? (wanted : Except FormulaError α → Bool) (computation : Metered σ α) (state : σ) :
    Option σ :=
  if wanted (computation.run state).1 then some (computation.run state).2 else none

theorem ending?_of_run {wanted : Except FormulaError α → Bool} {computation : Metered σ α}
    {state after : σ} {result : Except FormulaError α}
    (runs : computation.run state = (result, after)) (ends : wanted result = true) :
    computation.ending? wanted state = some after := by
  unfold ending?
  rw [runs, if_pos ends]

theorem ending?_isOk_eq_none {computation : Metered σ α} {state : σ} :
    computation.ending? (·.isOk) state = none ↔
      ∃ error after, computation.run state = (.error error, after) := by
  unfold ending?
  rcases computation.run state with ⟨error | value, after⟩
  · exact iff_of_true rfl ⟨error, after, rfl⟩
  · refine iff_of_false nofun ?_
    rintro ⟨_, _, ⟨⟩⟩

theorem ending?_not_isOk_eq_none {computation : Metered σ α} {state : σ} :
    computation.ending? (!·.isOk) state = none ↔
      ∃ value after, computation.run state = (.ok value, after) := by
  unfold ending?
  rcases computation.run state with ⟨error | value, after⟩
  · refine iff_of_false nofun ?_
    rintro ⟨_, _, ⟨⟩⟩
  · exact iff_of_true rfl ⟨value, after, rfl⟩

def isTruth (b : Bool) : Except FormulaError Bool → Bool
  | .ok c => c == b
  | .error _ => false

theorem ending?_isTruth_eq_none {b : Bool} {computation : Metered σ Bool} {state : σ} :
    computation.ending? (isTruth b) state = none ↔
      (∃ error after, computation.run state = (.error error, after)) ∨
        ∃ after, computation.run state = (.ok (!b), after) := by
  unfold ending?
  rcases computation.run state with ⟨error | c, after⟩
  · exact iff_of_true rfl (.inl ⟨error, after, rfl⟩)
  · match b, c with
    | true, true | false, false =>
      refine iff_of_false nofun ?_
      rintro (⟨_, _, ⟨⟩⟩ | ⟨_, ⟨⟩⟩)
    | true, false | false, true => exact iff_of_true rfl (.inr ⟨after, rfl⟩)

/-- What follows counts only from the state that the first part hands on. -/
theorem run_bind_congr (first : Metered σ α) {next following : α → Metered σ β} {state : σ}
    (same : ∀ value after, first.run state = (.ok value, after) →
      (next value).run after = (following value).run after) :
    (first >>= next).run state = (first >>= following).run state := by
  rw [run_bind, run_bind]
  revert same
  rcases first.run state with ⟨error | value, after⟩
  · exact fun _ => rfl
  · exact fun same => same value after rfl

theorem run_bind_left {first other : Metered σ α} (next : α → Metered σ β) {state : σ}
    (same : first.run state = other.run state) :
    (first >>= next).run state = (other >>= next).run state := by
  rw [run_bind, run_bind, same]

end Metered

theorem Arity.check_eq_ok_iff {arity : Arity} {name : String} {count : Nat} :
    arity.check name count = .ok () ↔ arity.Admits count := by
  rw [← Arity.broken?_eq_none_iff]
  unfold Arity.check
  cases arity.broken? count with
  | none => exact iff_of_true rfl rfl
  | some expected => exact iff_of_false nofun nofun

namespace Source

variable (source : Source σ)

def operand (e : Expr) : Metered σ Value := do (← source.evaluate e).scalar

def condition (e : Expr) : Metered σ Bool := do (← source.evaluate e).toBool

theorem evaluate_binary (op : BinaryOp) (left right : Expr) :
    source.evaluate (.binary op left right) =
      source.operand left >>= fun a => source.operand right >>= fun b => op.apply a b := by
  simp only [evaluate, operand, bind_assoc]

theorem evaluateAll_append (before behind : List Expr) :
    source.evaluateAll (before ++ behind) = do
      let values ← source.evaluateAll before
      return values ++ (← source.evaluateAll behind) := by
  induction before with
  | nil => simp [evaluateAll]
  | cons first others ih => simp [evaluateAll, ih]

/-- What a condition chooses from the arguments behind it. -/
def branch : List Expr → Bool → Metered σ Value
  | [], true => throw (Selective.missing .cond 1)
  | yes :: _, true => source.evaluate yes
  | _ :: no :: _, false => source.evaluate no
  | _, false => return .boolean false

theorem select_cond (condition : Expr) (others : List Expr) :
    source.select .cond (condition :: others) =
      source.condition condition >>= source.branch others := by
  match others with
  | [] | [_] | _ :: _ :: _ =>
    simp only [select, Source.condition, bind_assoc]
    congr 1
    funext x
    congr 1
    funext chosen
    cases chosen <;> rfl

theorem select_ifError {arguments : List Expr} (many : arguments.length ≠ 2) :
    source.select .ifError arguments = throw (Selective.missing .ifError arguments.length) := by
  match arguments with
  | [] | [_] | _ :: _ :: _ :: _ => rfl
  | [_, _] => exact absurd rfl many

/-- The state in which an argument is evaluated behind those before it, if it is. -/
def chosen? (state : σ) : Selective → List Expr → Option σ
  | .cond, [] => some state
  | .cond, [condition] => (source.condition condition).ending? (Metered.isTruth true) state
  | .cond, [condition, _] => (source.condition condition).ending? (Metered.isTruth false) state
  | .ifError, [] => some state
  | .ifError, [value] => (source.evaluate value).ending? (!·.isOk) state
  | _, _ => none

/-- The state in which a function comes to an argument behind those before it, if it does. -/
def argument? (state : σ) (before : List Expr) : Builtin → Option σ
  | .strict _ => (source.evaluateAll before).ending? (·.isOk) state
  | .selective f => source.chosen? state f before

/-- The state in which a node comes to the tree that it lacks, if it does. -/
def reached? (state : σ) : Frame → Option σ
  | .leftOf _ _ => some state
  | .rightOf _ left => (source.operand left).ending? (·.isOk) state
  | .under _ => some state
  | .among name before behind =>
    match Builtin.ofName? name with
    | none => none
    | some function =>
      match function.arity.check function.name (before.length + behind.length + 1) with
      | .error _ => none
      | .ok () => source.argument? state before function

/-- The state in which an evaluation comes to a place, if it does. -/
def comesTo? (state : σ) (place : Place) : Option σ := place.foldlM source.reached? state

variable {source} {state : σ} {e other : Expr}

theorem branch_congr {before : List Expr} (behind : List Expr) {chosen : Bool}
    (same : before.length = (if chosen then 0 else 1) →
      (source.evaluate e).run state = (source.evaluate other).run state) :
    (source.branch (before ++ e :: behind) chosen).run state =
      (source.branch (before ++ other :: behind) chosen).run state := by
  match before, chosen with
  | [], true => exact same rfl
  | [], false => cases behind <;> rfl
  | [_], false => exact same rfl
  | [_], true | _ :: _ :: _, true | _ :: _ :: _, false => rfl

theorem select_congr {function : Selective} {before : List Expr} (behind : List Expr)
    (same : ∀ after, source.chosen? state function before = some after →
      (source.evaluate e).run after = (source.evaluate other).run after) :
    (source.select function (before ++ e :: behind)).run state =
      (source.select function (before ++ other :: behind)).run state := by
  cases function with
  | cond =>
      cases before with
      | nil =>
          simp only [List.nil_append, select_cond]
          exact Metered.run_bind_left _ (Metered.run_bind_left _ (same state rfl))
      | cons condition before =>
          simp only [List.cons_append, select_cond]
          refine Metered.run_bind_congr _ fun chosen after ran => ?_
          refine branch_congr behind fun count => same after ?_
          match before, chosen with
          | [], true | [_], false => exact Metered.ending?_of_run ran rfl
  | ifError =>
      by_cases pair : before.length + behind.length = 1
      · rcases Nat.add_eq_one_iff.mp pair with ⟨none, one⟩ | ⟨one, none⟩
        · obtain rfl := List.length_eq_zero_iff.mp none
          obtain ⟨fallback, rfl⟩ := List.length_eq_one_iff.mp one
          have value := same state rfl
          simp only [List.nil_append, select, Metered.run_tryCatch, value]
        · obtain ⟨value, rfl⟩ := List.length_eq_one_iff.mp one
          obtain rfl := List.length_eq_zero_iff.mp none
          have failed {error : FormulaError} {after : σ}
              (ran : (source.evaluate value).run state = (.error error, after)) :
              (source.evaluate e).run after = (source.evaluate other).run after := by
            have ends : (source.evaluate value).ending? (!·.isOk) state = some after :=
              Metered.ending?_of_run ran rfl
            exact same after ends
          simp only [List.cons_append, List.nil_append, select, Metered.run_tryCatch]
          revert failed
          rcases (source.evaluate value).run state with ⟨error | value, after⟩
          · exact fun failed => failed rfl
          · exact fun _ => rfl
      · have many (e : Expr) : (before ++ e :: behind).length ≠ 2 := by
          rw [List.length_append, List.length_cons]
          omega
        rw [select_ifError source (many e), select_ifError source (many other)]
        simp only [List.length_append, List.length_cons]

/-- Two trees that end alike from the state in which a node comes to them end alike in it. -/
theorem fill_congr {frame : Frame}
    (same : ∀ after, source.reached? state frame = some after →
      (source.evaluate e).run after = (source.evaluate other).run after) :
    (source.evaluate (frame.fill e)).run state =
      (source.evaluate (frame.fill other)).run state := by
  cases frame with
  | leftOf op right =>
      have first := same state rfl
      simp only [Frame.fill, evaluate_binary]
      exact Metered.run_bind_left _ (Metered.run_bind_left _ first)
  | rightOf op left =>
      simp only [Frame.fill, evaluate_binary]
      refine Metered.run_bind_congr _ fun a after ran => ?_
      have second := same after (Metered.ending?_of_run ran rfl)
      exact Metered.run_bind_left _ (Metered.run_bind_left _ second)
  | under op =>
      have first := same state rfl
      simp only [Frame.fill, evaluate]
      exact Metered.run_bind_left _ first
  | among name before behind =>
      have count (e : Expr) :
          (before ++ e :: behind).length = before.length + behind.length + 1 := by
        rw [List.length_append, List.length_cons, Nat.add_assoc]
      simp only [reached?] at same
      simp only [Frame.fill, evaluate, count]
      cases found : Builtin.ofName? name with
      | none => rfl
      | some function =>
          rw [found] at same
          refine Metered.run_bind_congr _ fun _ after checked => ?_
          have admits : function.arity.check function.name (before.length + behind.length + 1) =
              .ok () := congrArg Prod.fst checked
          obtain rfl : state = after := congrArg Prod.snd checked
          simp only [admits] at same
          cases function with
          | strict f =>
              refine Metered.run_bind_left _ ?_
              rw [evaluateAll_append, evaluateAll_append]
              refine Metered.run_bind_congr _ fun values after ran => Metered.run_bind_left _ ?_
              have argument := same after (Metered.ending?_of_run ran rfl)
              simp only [evaluateAll]
              exact Metered.run_bind_left _ argument
          | selective f => exact select_congr behind same

/-- Two trees that end alike from the state in which an evaluation comes to a place end alike
there, however deep it lies. -/
theorem fill_place_congr {place : Place}
    (same : ∀ after, source.comesTo? state place = some after →
      (source.evaluate e).run after = (source.evaluate other).run after) :
    (source.evaluate (place.fill e)).run state =
      (source.evaluate (place.fill other)).run state := by
  induction place generalizing state with
  | nil => exact same state rfl
  | cons frame inner ih =>
      refine fill_congr fun after reached => ih fun last comes => same last ?_
      unfold comesTo? at comes ⊢
      rw [List.foldlM_cons, reached]
      exact comes

end Source

/-- What a node leaves out: the right operand behind a left one that failed or is no single value;
the arguments of a function that there is not, or that does not take as many; arguments behind one
that failed; the branch that a condition did not choose; and the fallback of a value. -/
inductive Formula.Frame.Skipped (source : Source σ) (state : σ) : Frame → Prop
  | operand {op : BinaryOp} {left : Expr} {error : FormulaError} {after : σ}
      (fails : (source.operand left).run state = (.error error, after)) :
      Skipped source state (.rightOf op left)
  | unregistered {name : String} {before behind : List Expr}
      (unknown : Builtin.ofName? name = none) : Skipped source state (.among name before behind)
  | arity {name : String} {function : Builtin} {before behind : List Expr}
      (found : Builtin.ofName? name = some function)
      (outside : ¬ function.arity.Admits (before.length + behind.length + 1)) :
      Skipped source state (.among name before behind)
  | argument {name : String} {f : Strict} {before behind : List Expr} {error : FormulaError}
      {after : σ} (found : Builtin.ofName? name = some (.strict f))
      (fails : (source.evaluateAll before).run state = (.error error, after)) :
      Skipped source state (.among name before behind)
  | condition {name : String} {condition : Expr} {before behind : List Expr}
      {error : FormulaError} {after : σ}
      (found : Builtin.ofName? name = some (.selective .cond))
      (fails : (source.condition condition).run state = (.error error, after)) :
      Skipped source state (.among name (condition :: before) behind)
  | yes {name : String} {condition : Expr} {behind : List Expr} {after : σ}
      (found : Builtin.ofName? name = some (.selective .cond))
      (chosen : (source.condition condition).run state = (.ok false, after)) :
      Skipped source state (.among name [condition] behind)
  | no {name : String} {condition yes : Expr} {behind : List Expr} {after : σ}
      (found : Builtin.ofName? name = some (.selective .cond))
      (chosen : (source.condition condition).run state = (.ok true, after)) :
      Skipped source state (.among name [condition, yes] behind)
  | fallback {name : String} {tree : Expr} {behind : List Expr} {value : Value} {after : σ}
      (found : Builtin.ofName? name = some (.selective .ifError))
      (succeeds : (source.evaluate tree).run state = (.ok value, after)) :
      Skipped source state (.among name [tree] behind)

namespace Source

variable {source : Source σ} {state : σ}

theorem reached?_among {name : String} {function : Builtin} {before behind : List Expr}
    (found : Builtin.ofName? name = some function) :
    source.reached? state (.among name before behind) = none ↔
      (function.arity.Admits (before.length + behind.length + 1) →
        source.argument? state before function = none) := by
  simp only [reached?, found, ← @Arity.check_eq_ok_iff _ function.name]
  cases function.arity.check function.name (before.length + behind.length + 1) with
  | error error => exact iff_of_true rfl nofun
  | ok => exact ⟨fun none _ => none, fun inner => inner rfl⟩

theorem reached?_eq_none_of_skipped {frame : Frame} (skipped : frame.Skipped source state) :
    source.reached? state frame = none := by
  cases skipped with
  | operand fails => exact Metered.ending?_isOk_eq_none.mpr ⟨_, _, fails⟩
  | unregistered unknown => simp only [reached?, unknown]
  | arity found outside => exact (reached?_among found).mpr fun admits => absurd admits outside
  | argument found fails =>
      exact (reached?_among found).mpr fun _ => Metered.ending?_isOk_eq_none.mpr ⟨_, _, fails⟩
  | @condition _ _ before _ _ _ found fails =>
      refine (reached?_among found).mpr fun _ => ?_
      match before with
      | [] | [_] => exact Metered.ending?_isTruth_eq_none.mpr (.inl ⟨_, _, fails⟩)
      | _ :: _ :: _ => rfl
  | yes found chosen | no found chosen =>
      refine (reached?_among found).mpr fun _ => ?_
      exact Metered.ending?_isTruth_eq_none.mpr (.inr ⟨_, chosen⟩)
  | fallback found succeeds =>
      refine (reached?_among found).mpr fun _ => ?_
      exact Metered.ending?_not_isOk_eq_none.mpr ⟨_, _, succeeds⟩

theorem skipped_of_chosen? {name : String} {f : Selective} {before behind : List Expr}
    (found : Builtin.ofName? name = some (.selective f))
    (admits : f.arity.Admits (before.length + behind.length + 1))
    (never : source.chosen? state f before = none) :
    (Frame.among name before behind).Skipped source state := by
  cases f with
  | cond =>
      match before with
      | [] => cases never
      | [condition] =>
        rcases Metered.ending?_isTruth_eq_none.mp never with ⟨error, after, fails⟩ | ⟨after, chosen⟩
        · exact .condition found fails
        · exact .yes found chosen
      | [condition, yes] =>
        rcases Metered.ending?_isTruth_eq_none.mp never with ⟨error, after, fails⟩ | ⟨after, chosen⟩
        · exact .condition found fails
        · exact .no found chosen
      | _ :: _ :: _ :: _ =>
        have most := admits.2 3 rfl
        simp only [List.length_cons] at most
        omega
  | ifError =>
      match before with
      | [] => cases never
      | [tree] =>
        obtain ⟨value, after, succeeds⟩ := Metered.ending?_not_isOk_eq_none.mp never
        exact .fallback found succeeds
      | _ :: _ :: _ =>
        have most := admits.2 2 rfl
        simp only [List.length_cons] at most
        omega

theorem skipped_of_reached? {frame : Frame} (never : source.reached? state frame = none) :
    frame.Skipped source state := by
  cases frame with
  | leftOf | under => cases never
  | rightOf op left =>
      obtain ⟨error, after, fails⟩ := Metered.ending?_isOk_eq_none.mp never
      exact .operand fails
  | among name before behind =>
      cases found : Builtin.ofName? name with
      | none => exact .unregistered found
      | some function =>
          by_cases admits : function.arity.Admits (before.length + behind.length + 1)
          · have inner := (reached?_among found).mp never admits
            cases function with
            | strict f =>
                obtain ⟨error, after, fails⟩ := Metered.ending?_isOk_eq_none.mp inner
                exact .argument found fails
            | selective f => exact skipped_of_chosen? found admits inner
          · exact .arity found admits

end Source

/-- A place is left out by one of the nodes above it, all of which above are evaluated. -/
inductive Formula.Place.Unselected (source : Source σ) : σ → Place → Prop
  | here {state : σ} {frame : Frame} {inner : Place} (skipped : frame.Skipped source state) :
      Unselected source state (frame :: inner)
  | inside {state after : σ} {frame : Frame} {inner : Place}
      (reached : source.reached? state frame = some after)
      (within : Unselected source after inner) : Unselected source state (frame :: inner)

theorem Source.comesTo?_eq_none_iff {source : Source σ} {state : σ} {place : Place} :
    source.comesTo? state place = none ↔ place.Unselected source state := by
  induction place generalizing state with
  | nil => exact ⟨nofun, nofun⟩
  | cons frame inner ih =>
      unfold comesTo? at ih ⊢
      rw [List.foldlM_cons]
      cases reached : source.reached? state frame with
      | none => exact iff_of_true rfl (.here (Source.skipped_of_reached? reached))
      | some after =>
          refine ih.trans ⟨.inside reached, ?_⟩
          rintro (skipped | ⟨again, within⟩)
          · rw [Source.reached?_eq_none_of_skipped skipped] at reached
            cases reached
          · cases reached.symm.trans again
            exact within

/-- A call that is refused before its arguments are looked at is refused with any others. -/
theorem Source.call_congr {source : Source σ} {name : String} {arguments others : List Expr}
    (refused : Builtin.ofName? name = none ∨ arguments.length = others.length ∧
      ∃ function, Builtin.ofName? name = some function ∧
        ¬ function.arity.Admits arguments.length) :
    source.evaluate (.call name arguments) = source.evaluate (.call name others) := by
  rw [evaluate, evaluate]
  rcases refused with unknown | ⟨count, function, found, outside⟩
  · rw [unknown]
  · rw [found, ← count]
    dsimp only
    cases checked : function.arity.check function.name arguments.length with
    | ok => exact absurd (Arity.check_eq_ok_iff.mp checked) outside
    | error => rfl

namespace Session

theorem evaluate_eq_of_run {session : Session} {e other : Expr}
    (same : (session.grid.source.evaluate e).run session.meter =
      (session.grid.source.evaluate other).run session.meter) :
    session.evaluate e = session.evaluate other := by
  change session.run (session.grid.source.evaluate e) =
    session.run (session.grid.source.evaluate other)
  unfold run
  rw [same]

/-- Every tree within a tree has its place, and an evaluation comes there unless the place is
unselected. What stands at an unselected place makes no difference to the result nor to what is
left of the allowance, and neither do the arguments of a call that is refused for its name, or for
their number. -/
theorem unselected_inert (session : Session) :
    (∀ e part : Expr, part ∈ e.subtrees → ∃ place : Place, place.fill part = e) ∧
    (∀ place : Place, place.Unselected session.grid.source session.meter ↔
      session.grid.source.comesTo? session.meter place = none) ∧
    (∀ (place : Place) (part : Expr), place.Unselected session.grid.source session.meter →
      ∀ other, session.evaluate (place.fill other) = session.evaluate (place.fill part)) ∧
    ∀ (place : Place) (name : String) (arguments others : List Expr),
      (Builtin.ofName? name = none ∨ arguments.length = others.length ∧
        ∃ function, Builtin.ofName? name = some function ∧
          ¬ function.arity.Admits arguments.length) →
      session.evaluate (place.fill (.call name others)) =
        session.evaluate (place.fill (.call name arguments)) := by
  refine ⟨fun e _ => Expr.exists_place e, fun _ => Source.comesTo?_eq_none_iff.symm, ?_, ?_⟩
  · intro place part unselected other
    apply evaluate_eq_of_run
    apply Source.fill_place_congr
    intro after comes
    rw [Source.comesTo?_eq_none_iff.mpr unselected] at comes
    cases comes
  · intro place name arguments others refused
    apply evaluate_eq_of_run
    apply Source.fill_place_congr
    intro after _
    rw [Source.call_congr refused]

/-- The branch that is not chosen, within an operand. -/
theorem unselected_inert_branch :
    let session := start .empty .standard
    let place : Place := [.rightOf .add (.number 1), .among "IF" [.boolean true, .number 2] []]
    let sum : Expr := .call "SUM" [.range (.spanning (.relative 0 0) (.relative 9 9))]
    place.Unselected session.grid.source session.meter ∧
      session.evaluate (place.fill (.name "x")) = session.evaluate (place.fill sum) := by
  intro session place sum
  have unselected : place.Unselected session.grid.source session.meter :=
    .inside rfl (.here (.no rfl rfl))
  exact ⟨unselected, (unselected_inert session).2.2.1 place _ unselected _⟩

end Session

end Spreadsheet
