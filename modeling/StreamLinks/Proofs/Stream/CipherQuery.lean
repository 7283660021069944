import StreamLinks.Proofs.Stream.Address
import StreamLinks.Stream.CipherQuery
/-!
Cipher queries that are written field by field.

A parameter that is appended to a query stands behind all others, and of several values for one name the
last counts. So the query reads as before in all fields but that one, whatever it was.
-/
namespace StreamLinks.CipherQuery

-- The fields that are read from a query.
inductive Field where
  | url
  | signature
  | param
  deriving DecidableEq

namespace Field

-- The name under which a query gives the field.
def key : Field → Text
  | url => "url".toList
  | signature => "s".toList
  | param => "sp".toList

-- The query with another value in the field, or without one.
def put (field : Field) (value : Option Text) (query : CipherQuery) : CipherQuery :=
  match field with
  | url => { query with url := value }
  | signature => { query with signature := value }
  | param => { query with param := value.getD defaultParam }

theorem key_plain (field : Field) : ∀ c ∈ field.key, Text.isFormPlain c = true := by
  refine List.all_eq_true.mp ?_
  cases field <;> decide

theorem key_injective {field other : Field} (same : field.key = other.key) : field = other := by
  cases field <;> cases other <;> first | rfl | exact absurd same (by decide)

end Field

variable {name key : Text}

-- An empty value takes the field away.
theorem field?_concat_self (name : Text) (pairs : List (Text × Text)) (value : Text) :
    field? name (pairs ++ [(name, value)]) = if value = [] then none else some value := by
  unfold field?
  rw [List.reverse_concat', List.lookup_cons_self]
  cases value <;> rfl

theorem field?_concat_of_ne (different : name ≠ key) (pairs : List (Text × Text)) (value : Text) :
    field? name (pairs ++ [(key, value)]) = field? name pairs := by
  have skip : (name == key) = false := by simpa using different
  unfold field?
  rw [List.reverse_concat', List.lookup_cons, skip]

theorem formPairs_append_param (field : Field) (value query : Text) :
    Text.formPairs (Address.append field.key value query) =
      Text.formPairs query ++ [(field.key, value)] := by
  rw [Address.append_eq, Text.formPairs_append, Text.formPairs_field field.key_plain]

theorem read_eq (query : Text) :
    let pairs := Text.formPairs query
    read query = ⟨field? Field.url.key pairs, field? Field.signature.key pairs,
      (field? Field.param.key pairs).getD defaultParam⟩ := rfl

-- The query may be of any form: with broken escapes, with empty or repeated names, or with nothing in it.
theorem read_append (query : Text) (field : Field) (value : Text) :
    read (Address.append field.key value query) =
      field.put (if value = [] then none else some value) (read query) := by
  have own := field?_concat_self field.key (Text.formPairs query) value
  have others (other : Field) (different : other ≠ field) :
      field? other.key (Text.formPairs query ++ [(field.key, value)]) =
        field? other.key (Text.formPairs query) :=
    field?_concat_of_ne (mt Field.key_injective different) _ value
  rw [read_eq, read_eq, formPairs_append_param]
  cases field with
  | url =>
    rw [own, others .signature (by decide), others .param (by decide)]
    rfl
  | signature =>
    rw [own, others .url (by decide), others .param (by decide)]
    rfl
  | param =>
    rw [own, others .url (by decide), others .signature (by decide)]
    rfl

end StreamLinks.CipherQuery
