import StreamLinks.Proofs.Text.Cutting
import StreamLinks.Proofs.Text.FormEncoding
import StreamLinks.Stream.Address
/-!
The `n` parameter under what is done to an address.

Replacing the token puts the new one in its place, and appending leaves it alone. An address without a
token can get one by appending: the new parameter closes a value that stood last, or brings a token
in its own name.
-/
namespace StreamLinks.Address

variable {address token : Text}

theorem tokenMark_eq : tokenMark = ['&', 'n', '='] := rfl

-- The token stands behind the first mark and goes up to the ampersand that closes it.
theorem token?_eq_some : token? address = some token ↔
    '&' ∉ token ∧ ∃ head rest, Text.cut tokenMark address = some (head, token ++ '&' :: rest) := by
  constructor
  · intro found
    cases first : Text.cut tokenMark address with
    | none => simp [token?, first] at found
    | some parts =>
      obtain ⟨head, behind⟩ := parts
      cases closed : Text.cut ['&'] behind with
      | none => simp [token?, first, closed] at found
      | some inner =>
        obtain ⟨front, rest⟩ := inner
        simp only [token?, first, closed, Option.bind_eq_bind, Option.bind_some, Option.pure_def,
          Option.some.injEq] at found
        subst found
        refine ⟨Text.not_mem_of_cut_char closed, head, rest, ?_⟩
        rw [Text.cut_append closed, List.append_assoc]
        rfl
  · rintro ⟨plain, head, rest, first⟩
    simp [token?, first, Text.cut_piece plain]

theorem token?_append (found : token? address = some token) (more : Text) :
    token? (address ++ more) = some token := by
  obtain ⟨plain, head, rest, first⟩ := token?_eq_some.1 found
  refine token?_eq_some.2 ⟨plain, head, rest ++ more, ?_⟩
  simpa using Text.cut_append_right first more

-- The first of the replaced values is the token, so the new token stands where the old one was.
theorem cut_replaceToken {old : Text} (found : token? address = some old) (new : Text) :
    ∃ head rest, Text.cut tokenMark (replaceToken old new address) = some (head, new ++ '&' :: rest) := by
  obtain ⟨-, head, rest, first⟩ := token?_eq_some.1 found
  have field : Text.cut (tokenMark ++ (old ++ ['&'])) address = some (head, rest) :=
    Text.cut_longer (by simpa using first)
  have replaced : replaceToken old new address =
      head ++ tokenMark ++ (new ++ '&' :: replaceToken old new rest) := by
    rw [← List.append_assoc] at field
    rw [replaceToken, tokenField, Text.replaceAll_of_cut (by simp) field]
    simp [replaceToken, tokenField]
  refine ⟨head, replaceToken old new rest, ?_⟩
  rw [replaced]
  exact Text.cut_of_cut first _

theorem token?_replaceToken {old new : Text} (found : token? address = some old) (plain : '&' ∉ new) :
    token? (replaceToken old new address) = some new :=
  token?_eq_some.2 ⟨plain, cut_replaceToken found new⟩

theorem append_eq (param value address : Text) :
    append param value address = address ++ '&' :: (param ++ '=' :: Text.formEncode value) := by
  simp [append]

-- The value of an appended parameter holds no ampersand, so what closes a token inside the parameter
-- stands in its name.
theorem ampersand_mem_param {param value : Text} (found : token? (append param value []) = some token) :
    '&' ∈ param := by
  obtain ⟨-, head, rest, first⟩ := token?_eq_some.1 found
  have split := Text.cut_append first
  rw [append_eq, List.nil_append, tokenMark_eq] at split
  have closing : '&' ∈ param ++ '=' :: Text.formEncode value := by
    cases head with
    | nil => simp [(List.cons.inj split).2]
    | cons c head => simp [(List.cons.inj split).2]
  simpa [Text.ampersand_not_mem_formEncode] using closing

-- How an address without a token comes to one.
theorem token?_append_of_none {param value : Text} (missing : token? address = none)
    (found : token? (append param value address) = some token) :
    (∃ head, address = head ++ tokenMark ++ token) ∨ token? (append param value []) = some token := by
  obtain ⟨plain, head, rest, first⟩ := token?_eq_some.1 found
  rw [append_eq] at first
  cases last : Text.cut tokenMark address with
  | some parts =>
    obtain ⟨front, tail⟩ := parts
    have unclosed : '&' ∉ tail := by
      rw [← Text.cut_char_eq_none]
      cases closed : Text.cut ['&'] tail with
      | none => rfl
      | some inner => simp [token?, last, closed] at missing
    have closed := Text.cut_append_right last ('&' :: (param ++ '=' :: Text.formEncode value))
    have reached : token? (append param value address) = some tail := by
      rw [append_eq]
      exact token?_eq_some.2 ⟨unclosed, _, _, closed⟩
    cases found.symm.trans reached
    exact .inl ⟨front, Text.cut_append last⟩
  | none =>
    have inside := Text.cut_append_left (by decide) (tokenMark_eq ▸ last)
      (param ++ '=' :: Text.formEncode value)
    rw [tokenMark_eq, inside] at first
    obtain ⟨⟨before, behind⟩, cutParam, same⟩ := Option.map_eq_some_iff.mp first
    cases same
    right
    refine token?_eq_some.2 ⟨plain, before, rest, ?_⟩
    rw [append_eq]
    exact cutParam

end StreamLinks.Address
