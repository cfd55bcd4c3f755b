import GridCalc.Formula.Evaluation
import GridCalc.Workbook.Reading

/-!
# Sessions

A session changes a workbook and evaluates over it, step by step, and keeps results under names.

* `Step`: what can be done.
* `Session.effect`: what a step changes; a step that is refused may have changed something before.
* `Session.answer`: the value that a step answers with.
* `Session.perform`: both, with the result kept under a name.
-/

namespace GridCalc

/-- A value, or the name of an earlier result. -/
inductive Argument
  | value (v : Value)
  | named (name : String)

inductive Step
  | set (sheet : String) (cells : List (CellPosition × Entry))
  | clear (sheet : String) (position : CellPosition)
  | addSheet (title : String) (index : Option Int)
  | removeSheet (title : String)
  | activate (index : Int)
  | selectSheet (choice : SheetChoice)
  | limit (maxRow maxCol : Int)
  | extent (sheet : String)
  | parse (text : String) (sheet : Option String)
  | intersect (operands : List Argument)
  | span (operands : List Argument)
  | union (operands : List Argument)
  | classify (operand : Argument)
  | resolve (operand : Argument)
  | signs (tokens : List String) (operand : Argument)
  | percent (operand : Argument) (token : String)
  | binary (left : Argument) (token : String) (right : Argument)
  | evaluate (formula : Formula)

structure Session where
  reader : SheetReader
  results : List (String × Value)

namespace Session

variable (session : Session)

def start (reader : SheetReader) : Session := ⟨reader, []⟩

def engine : Engine := ⟨session.reader.read, .standard⟩

def keep (name : String) (v : Value) : Session := { session with results := (name, v) :: session.results }

/-- The sheet of a title, for a step that changes it or asks for its extent. -/
def worksheet (title lacking : String) : Except Fault Worksheet :=
  match session.reader.workbook.find? title with
  | some (.worksheet sheet) => .ok sheet
  | some (.chart _) => Fault.raise (.chartLacks lacking)
  | none => Fault.raise (.missing (.sheet title))

/-! ## What a step changes -/

def withWorkbook (change : Workbook → Workbook) : Session :=
  { session with reader := { session.reader with workbook := change session.reader.workbook } }

/-- The current sheet once a sheet has left the workbook: a sheet that is held on to stays as it is. -/
def currentWithout (title : String) : CurrentSheet :=
  match session.reader.current, session.reader.workbook.find? title with
  | .held held, some (.worksheet sheet) => if held = title then .detached sheet else .held held
  | current, _ => current

def remove (title : String) : Session :=
  { session with reader := { session.reader with
      workbook := session.reader.workbook.remove title
      current := session.currentWithout title } }

/-- A change that is made as a whole or not at all. -/
def attempt (change : Except Fault Session) : Except Fault Unit × Session :=
  match change with
  | .ok session' => (.ok (), session')
  | .error fault => (.error fault, session)

/-- Writes entries to a sheet. A chart sheet refuses the first of them. -/
def write (title : String) (entries : List (CellPosition × Entry)) : Except Fault Unit × Session :=
  match session.reader.workbook.find? title, entries with
  | some (.worksheet sheet), entries =>
    let (outcome, sheet') := sheet.writeAll entries
    (outcome, session.withWorkbook (·.modify title fun _ => sheet'))
  | some (.chart _), [] => (.ok (), session)
  | some (.chart _), _ :: _ => (Fault.raise (.chartLacks "cell"), session)
  | none, _ => (Fault.raise (.missing (.sheet title)), session)

def effect : Step → Except Fault Unit × Session
  | .set sheet entries => session.write sheet entries
  | .clear sheet position => session.attempt do
    let _ ← session.worksheet sheet "_cells"
    return session.withWorkbook (·.modify sheet (·.clear position))
  | .addSheet title index => (.ok (), session.withWorkbook (·.insert (.worksheet (.new title)) index))
  | .removeSheet title => session.attempt (
    match session.reader.workbook.find? title with
    | some _ => .ok (session.remove title)
    | none => Fault.raise (.missing (.sheet title)))
  | .activate index => (.ok (), session.withWorkbook ({ · with active := index }))
  | .selectSheet choice => session.attempt do return { session with reader := ← session.reader.select choice }
  | .limit maxRow maxCol => (.ok (), { session with reader := { session.reader with maxRow, maxCol } })
  | _ => (.ok (), session)

/-! ## What a step answers -/

/-- The value of an argument. -/
def argument : Argument → Except Fault Value
  | .value v => .ok v
  | .named name =>
    match session.results.lookup name with
    | some v => .ok v
    | none => Fault.raise (.missing (.result name))

def arguments (operands : List Argument) : Except Fault (List Value) := operands.mapM session.argument

/-- The outcome of a computation, without its record. -/
def run {α : Type} (computation : Run α) : Except Fault α := (computation.run.run .empty).1

/-- The answer of a step; one that only changes something answers nothing. -/
def answer : Step → Except Fault Value
  | .extent sheet => do
    let sheet ← session.worksheet sheet "max_row"
    return .list [.int sheet.lastRow, .int sheet.lastCol]
  | .parse text sheet => do return .reference (← Reference.parse text sheet)
  | .intersect operands => do return .reference (← intersection (← session.arguments operands))
  | .span operands => do return .reference (← GridCalc.span (← session.arguments operands))
  | .union operands => do run (session.engine.union (← session.arguments operands))
  | .classify operand => do
    let classified ← run (session.engine.classify (← session.argument operand))
    return .classified classified.value classified.isArray
  | .resolve operand => do run (session.engine.resolve (← session.argument operand))
  | .signs tokens operand => do run (session.engine.applySigns tokens (← session.argument operand))
  | .percent operand token => do run (session.engine.applyPercent (← session.argument operand) token)
  | .binary left token right => do
    let leftValue ← session.argument left
    let rightValue ← session.argument right
    run (session.engine.applyInfix leftValue token rightValue)
  | .evaluate formula => (session.engine.evaluate formula).1
  | _ => .ok .empty

/-! ## Steps in order -/

/-- Performs a step: the answer, and the session after it. A result is kept under a name if there is one. -/
def perform (step : Step) (name : Option String) : Except Fault Value × Session :=
  match session.effect step, session.answer step with
  | (.ok (), session'), .ok v =>
    (.ok v, match name with
      | some name => session'.keep name v
      | none => session')
  | (.ok (), session'), .error fault => (.error fault, session')
  | (.error fault, session'), _ => (.error fault, session')

def performAll (session : Session) : List (Step × Option String) → List (Except Fault Value)
  | [] => []
  | (step, name) :: rest =>
    let (outcome, session') := session.perform step name
    outcome :: performAll session' rest

end Session

end GridCalc
