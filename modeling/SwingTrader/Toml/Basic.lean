/-!
# SwingTrader — TOML values

A TOML document is a table of values, written as a list of statements: a header
says which table the settings after it belong to, and a setting may name a place
further down by a key of several parts. A table may be spread over a document
only in so far as it is not written out in one place.

* `Toml` — the values;
* `Toml.Statement` — the three kinds of statement;
* `Toml.assemble?` — the table that a list of statements makes.
-/

namespace SwingTrader

/-- How a table came to be: by its own header, by the header of a table below it, by a dotted
key, or all in one place. -/
inductive Toml.Origin where
  | header
  | passed
  | dotted
  | inline
  deriving DecidableEq, Repr

/-- A value. Of a date or a time only the form is read. -/
inductive Toml where
  | text (value : String)
  | integer (value : Int)
  | number (value : Float)
  | flag (value : Bool)
  | moment
  | array (items : List Toml)
  | table (origin : Toml.Origin) (entries : List (String × Toml))
  /-- Tables that share a header, the newest first. -/
  | tables (elements : List (List (String × Toml)))

namespace Toml

/-- The entries of a table; no key occurs twice. -/
abbrev Entries := List (String × Toml)

/-- A statement of a document. -/
inductive Statement where
  | table (path : List String)
  | element (path : List String)
  | setting (path : List String) (value : Toml)

/-- Replaces what a key stands for, or adds the key. -/
def alter (key : String) (change : Option Toml → Option Toml) : Entries → Option Entries
  | [] => (change none).map fun value => [(key, value)]
  | (name, value) :: rest =>
    if name = key then (change (some value)).map fun value => (name, value) :: rest
    else (alter key change rest).map fun rest => (name, value) :: rest

/-- Sets what stands at a key of one or more parts. It must not stand for anything yet, and may
only pass through tables made by such keys. -/
def assign (value : Toml) : List String → Entries → Option Entries
  | [], _ => none
  | [key], entries => alter key (fun old => if old.isSome then none else some value) entries
  | key :: path, entries =>
    alter key
      (fun
        | none => (assign value path []).map (table .dotted)
        | some (table .dotted inner) => (assign value path inner).map (table .dotted)
        | some _ => none)
      entries

/-- Changes the table that a header leads to, through the newest of any tables that share one. -/
def descend (change : Entries → Option Entries) : List String → Entries → Option Entries
  | [], entries => change entries
  | key :: path, entries =>
    alter key
      (fun
        | none => (descend change path []).map (table .passed)
        | some (table .inline _) => none
        | some (table origin inner) => (descend change path inner).map (table origin)
        | some (tables (newest :: older)) =>
          (descend change path newest).map fun newest => tables (newest :: older)
        | some _ => none)
      entries

/-- What a header makes of the key it names: a table not seen before, unless below it. -/
def openTable : Option Toml → Option Toml
  | none => some (table .header [])
  | some (table .passed entries) => some (table .header entries)
  | some _ => none

/-- What a header of tables that share it makes of the key: one more of them. -/
def openElement : Option Toml → Option Toml
  | none => some (tables [[]])
  | some (tables elements) => some (tables ([] :: elements))
  | some _ => none

/-- The entries after a header that ends in a key. -/
def atHeader (open? : Option Toml → Option Toml) (path : List String) (entries : Entries) :
    Option Entries := do
  let key ← path.getLast?
  descend (alter key open?) path.dropLast entries

/-- Carries out the statements that follow one another under a header. -/
def assembleFrom : List Statement → (header : List String) → Entries → Option Entries
  | [], _, entries => some entries
  | .table path :: rest, _, entries => do
    assembleFrom rest path (← atHeader openTable path entries)
  | .element path :: rest, _, entries => do
    assembleFrom rest path (← atHeader openElement path entries)
  | .setting path value :: rest, header, entries => do
    assembleFrom rest header (← descend (assign value path) header entries)

/-- The table that a document makes, if it names nothing twice. -/
def assemble? (statements : List Statement) : Option Entries :=
  assembleFrom statements [] []

/-- The table that is written out in one place. -/
def inlineTable? (settings : List (List String × Toml)) : Option Toml :=
  (settings.foldlM (fun entries (path, value) => assign value path entries) []).map (table .inline)

end Toml

end SwingTrader
