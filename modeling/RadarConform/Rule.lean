import RadarConform.Location
import RadarConform.Value
import RadarConform.Version

/-!
# Rule tables

A rule table is one revision of the standard for one product, in the form of a list: each entry
names a location, says whether a node must be there, and constrains its value.

* `Rule`: one entry.
* `RuleTable`: the entries in order, with the revision and the product they belong to.
-/

namespace RadarConform

/-- One entry of a rule table.  The constraint stands as it was written; blank means that only
the presence of the node counts. -/
structure Rule where
  location : Location
  mandatory : Bool
  constraint : String
  version : Option Version
  kind : Option ValueKind
  description : String
deriving DecidableEq

namespace Rule

/-- Whether only the presence of the node counts. -/
def isPresenceOnly (r : Rule) : Bool := Text.isBlankText r.constraint

/-- The entry that stands for a node which no rule describes. -/
def undescribed (location : Location) (version : Option Version) : Rule :=
  { location, mandatory := false, constraint := "", version, kind := none, description := "" }

end Rule

/-- A list of rules for one revision and product, as far as these are known. -/
structure RuleTable where
  version : Option Version
  product : Option String
  rules : List Rule
deriving DecidableEq

namespace RuleTable

/-- The table without rules. -/
def empty : RuleTable := { version := none, product := none, rules := [] }

instance : Inhabited RuleTable := ⟨empty⟩

/-- The table with one more rule at its end. -/
def push (t : RuleTable) (r : Rule) : RuleTable := { t with rules := t.rules ++ [r] }

/-- The table for a revision; the rules keep what they say about theirs. -/
def withVersion (t : RuleTable) (v : Version) : RuleTable := { t with version := some v }

/-- The table for a product. -/
def withProduct (t : RuleTable) (product : String) : RuleTable := { t with product := some product }

/-- The number of mandatory rules. -/
def mandatoryCount (t : RuleTable) : Nat := t.rules.countP (·.mandatory)

end RuleTable

end RadarConform
