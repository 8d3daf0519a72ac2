/-!
# DeclarationError — why a declaration is refused

Fields, families and catalogues are checked when they are declared, before any artifact is touched.
Each error carries what its message names; `DeclarationError.subject` is the declaration it concerns.
-/
namespace DispatchChain

inductive DeclarationError
  /-- The field takes the values below zero: none. -/
  | zeroBound (field : String)
  | noValues (field : String)
  | repeatedValue (field : String) (value : UInt32)
  /-- The name of a field or a handler is not an identifier. -/
  | notIdentifier (name : String)
  | repeatedField (artifact field : String)
  /-- The artifact's name is not the name of a file in a directory. -/
  | badArtifactName (artifact : String)
  | repeatedArtifact (artifact : String)
  /-- The family has more encodings than a machine word counts. -/
  | tooManyEncodings (artifact : String)
deriving DecidableEq, Repr

namespace DeclarationError

def message : DeclarationError → String
  | zeroBound field => s!"field `{field}` declares an empty range"
  | noValues field => s!"field `{field}` declares an empty explicit value set"
  | repeatedValue field value => s!"field `{field}` lists value {value} more than once"
  | notIdentifier name => s!"`{name}` is not a valid identifier"
  | repeatedField artifact field => s!"group `{artifact}` declares field `{field}` more than once"
  | badArtifactName artifact => s!"`{artifact}` is not a valid output name"
  | repeatedArtifact artifact => s!"output `{artifact}` is declared by more than one group"
  | tooManyEncodings artifact => s!"group `{artifact}` has too many combinations to enumerate"

/-- The declaration that an error concerns: a field, a name, or else the artifact of a family. -/
def subject : DeclarationError → String
  | zeroBound field | noValues field | repeatedValue field _ => field
  | notIdentifier name => name
  | repeatedField artifact _ | badArtifactName artifact | repeatedArtifact artifact
  | tooManyEncodings artifact => artifact

end DeclarationError

end DispatchChain
