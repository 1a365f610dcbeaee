import RadarConform.FileStore
import RadarConform.Location
import RadarConform.Table.Record
import RadarConform.Value

/-!
# Errors of rule tables

* `RowFault`: what is wrong with a line.
* `TableError`: why a table cannot be loaded or chosen.
-/

namespace RadarConform

/-- What is wrong with a line of a table. -/
inductive RowFault where
  | record (fault : Record.Fault)
  | tooFewFields (expected found : Nat)
  /-- A group or dataset whose location names an attribute. -/
  | namesAttribute (node listed : String)
  | flag (value : String)
  | category (value : String)
  | valueType (word : String)
  | location (error : LocationError)
deriving DecidableEq

/-- What a fault says. -/
def RowFault.message : RowFault → String
  | .record (.afterQuote c) => "unexpected " ++ Text.quotedChar c ++ " after quoted field"
  | .record .unterminated => "unterminated quoted field"
  | .tooFewFields expected found =>
    "expected at least " ++ toString expected ++ " fields, found " ++ toString found
  | .namesAttribute node listed =>
    Text.quoted node ++ " is listed as a " ++ listed ++ " but names an attribute"
  | .flag value => "invalid mandatory flag " ++ Text.quoted value
  | .category value => "unknown category " ++ Text.quoted value
  | .valueType word => ValueKind.unknownMessage word
  | .location error => error.message

/-- Why no table can be chosen for a file. -/
inductive ChoiceFault where
  | noVersion
  | noProduct
deriving DecidableEq

/-- What a fault says. -/
def ChoiceFault.message : ChoiceFault → String
  | .noVersion => "the file declares no standard version in /what#version or /#Conventions"
  | .noProduct => "the file has no /what#object product"

/-- Why a table cannot be loaded or chosen. -/
inductive TableError where
  | unreadable (path : String) (cause : ReadError)
  | empty (path : String)
  | missingColumn (path column : String)
  /-- A fault in a line, which is counted from 1. -/
  | row (path : String) (line : Nat) (fault : RowFault)
  | unresolvable (fault : ChoiceFault)
deriving DecidableEq

namespace TableError

/-- The message of an error. -/
def message : TableError → String
  | unreadable path cause => "cannot read rule table '" ++ path ++ "': " ++ cause.message
  | empty path => "rule table '" ++ path ++ "' is empty"
  | missingColumn path column => "rule table '" ++ path ++ "' has no '" ++ column ++ "' column"
  | row path line fault =>
    "rule table '" ++ path ++ "' line " ++ toString line ++ ": " ++ fault.message
  | unresolvable fault => "cannot determine rule table: " ++ fault.message

/-- The messages of an error and of the errors that caused it, the outermost first. -/
def chain (e : TableError) : List String :=
  match e with
  | unreadable _ cause => [e.message, cause.message]
  | row _ _ (.location error) => [e.message, error.message]
  | _ => [e.message]

end TableError

end RadarConform
