-- References: the texts that name an object of the host. The usual form is
-- `PHID-XXXX-…`, with a type of four characters.

namespace RuleFields

/-- The type of a reference of the form `PHID-XXXX-…`: the four characters before the second
dash, none of them a dash. -/
def phidType (s : String) : Option String :=
  match s.toList with
  | 'P' :: 'H' :: 'I' :: 'D' :: '-' :: a :: b :: c :: d :: '-' :: _ =>
    if '-' ∈ [a, b, c, d] then none else some (String.ofList [a, b, c, d])
  | _ => none

/-- The references of the usual form, of every type or of the listed types only. -/
structure PhidNamespace where
  types : Option (List String)

namespace PhidNamespace

def any : PhidNamespace := ⟨none⟩

def withTypes (types : List String) : PhidNamespace := ⟨some types⟩

/-- The text is a reference of this namespace. -/
def isKnownReference (n : PhidNamespace) (s : String) : Bool :=
  match phidType s, n.types with
  | none, _ => false
  | some _, none => true
  | some t, some types => types.contains t

end PhidNamespace

end RuleFields
