import SimulationScript.Settings.Toml.Moment

/-! # TOML values

The values of a document, and the settings that they are. Dates and times are set as texts. A table
can stand for a date or time too, when its first name says so.
-/

namespace SimulationScript.Toml

inductive Value where
  | leaf (setting : Setting)
  | moment (moment : Moment)
  | list (items : List Value)
  | table (entries : List (String × Value))
  deriving Inhabited

/-- The name that marks a table as a moment when it comes first. The moment is its string; what else
    is in the table does not matter. -/
def momentName : String := "$__toml_private_datetime"

/-- The string of a table that is marked as a moment; none inside when another value is there. -/
def markedString? (entries : List (String × Value)) : Option (Option String) :=
  match entries with
  | (name, value) :: _ =>
    if name = momentName then
      match value with
      | .leaf (.text s) => some (some s)
      | _ => some none
    else none
  | [] => none

mutual

/-- The setting that a value is, or none when a moment is marked but not spelled. -/
def Value.setting? : Value → Option Setting
  | .leaf setting => some setting
  | .moment moment => some (.text (String.ofList moment.text))
  | .list items => (itemSettings? items).map .list
  | .table entries =>
    match markedString? entries with
    | none => (entrySettings? entries).map .table
    | some none => none
    | some (some s) => (Moment.ofString? s).map fun moment => .text (String.ofList moment.text)

def itemSettings? : List Value → Option (List Setting)
  | [] => some []
  | item :: rest => do
    let setting ← item.setting?
    return setting :: (← itemSettings? rest)

def entrySettings? : List (String × Value) → Option (List (String × Setting))
  | [] => some []
  | (name, value) :: rest => do
    let setting ← value.setting?
    return (name, setting) :: (← entrySettings? rest)

end

end SimulationScript.Toml
