import StreamLinks.Proofs.Stream.Places
/-!
Streams without an address.

A link is left without an address only where its stream offers none: neither an address of its own nor
one in its cipher query. Of two queries the field `cipher` counts, even if the other one has an address.
-/
namespace StreamLinks

namespace Descriptor
variable {descriptor : Descriptor}

-- There is no address of its own, and an empty `cipher` stands before a query that is not empty.
def Shadowed (descriptor : Descriptor) : Prop :=
  descriptor.directUrl = none ∧ descriptor.cipher = some [] ∧
    nonEmpty descriptor.signatureCipher ≠ none

theorem nonEmpty_eq_none (field : Option Text) :
    nonEmpty field = none ↔ field = none ∨ field = some [] := by
  match field with
  | none => simp [nonEmpty]
  | some [] => simp [nonEmpty]
  | some (c :: text) => simp [nonEmpty]

theorem cipherQuery_eq (indirect : descriptor.directUrl = none) (unshadowed : ¬ descriptor.Shadowed) :
    descriptor.cipherQuery =
      (nonEmpty descriptor.cipher).or (nonEmpty descriptor.signatureCipher) := by
  unfold cipherQuery
  cases given : descriptor.cipher with
  | none => rfl
  | some query =>
    cases query with
    | cons c query => rfl
    | nil =>
      have hidden : nonEmpty descriptor.signatureCipher = none :=
        Classical.byContradiction fun filled => unshadowed ⟨indirect, given, filled⟩
      rw [hidden]
      rfl

end Descriptor

namespace Source
open Descriptor

-- An address of its own comes first, then the query.
theorem ofDescriptor_cases (descriptor : Descriptor) :
    (∃ url, descriptor.directUrl = some url ∧ ofDescriptor descriptor = .direct url) ∨
      (∃ query, descriptor.directUrl = none ∧ descriptor.cipherQuery = some query ∧
        ofDescriptor descriptor = .ciphered (.read query)) ∨
      (descriptor.directUrl = none ∧ descriptor.cipherQuery = none ∧
        ofDescriptor descriptor = .missing) := by
  unfold ofDescriptor
  cases descriptor.directUrl with
  | some address => exact .inl ⟨address, rfl, rfl⟩
  | none =>
    cases descriptor.cipherQuery with
    | some query => exact .inr (.inl ⟨query, rfl, rfl, rfl⟩)
    | none => exact .inr (.inr ⟨rfl, rfl, rfl⟩)

theorem url_eq_none_iff (descriptor : Descriptor) :
    (ofDescriptor descriptor).url = none ↔ descriptor.directUrl = none ∧
      ∀ query, descriptor.cipherQuery = some query → (CipherQuery.read query).url = none := by
  rcases ofDescriptor_cases descriptor with ⟨address, direct, same⟩ | ⟨query, direct, queried, same⟩ |
      ⟨direct, unqueried, same⟩
  · rw [same, direct]
    exact iff_of_false (Option.some_ne_none address) fun none => Option.some_ne_none address none.1
  · rw [same, direct, queried]
    refine ⟨?_, fun none => none.2 query rfl⟩
    intro none
    refine ⟨rfl, ?_⟩
    rintro _ ⟨⟩
    exact none
  · rw [same, direct, unqueried]
    refine iff_of_true rfl ⟨rfl, ?_⟩
    rintro query ⟨⟩

theorem eq_missing_iff (descriptor : Descriptor) :
    ofDescriptor descriptor = .missing ↔
      descriptor.directUrl = none ∧ descriptor.cipherQuery = none := by
  rcases ofDescriptor_cases descriptor with ⟨address, direct, same⟩ | ⟨query, direct, queried, same⟩ |
      ⟨direct, unqueried, same⟩ <;> simp [*]

end Source

namespace Resolver
variable {resolver : Resolver} {descriptor : Descriptor} {memo : Memo} {world : World}

-- What is told of a stream without a source is not what is told of a token or of a query.
theorem noSource_ne_undecoded (kind : TokenKind) (reason playerUrl : Text) :
    LinkWarning.noSource.message ≠ (LinkWarning.undecoded kind reason playerUrl).message := by
  intro same
  obtain ⟨rest, shown⟩ := message_undecoded kind reason playerUrl
  have first := congrArg List.head? (same.trans shown)
  cases first

theorem noSource_not_mem_warnings (kind : TokenKind) (playerUrl : Text)
    (outcome : Option (Except Failure Text)) :
    LinkWarning.noSource.message ∉ warnings kind playerUrl outcome := by
  intro told
  obtain ⟨reason, same⟩ := exists_of_mem_warnings told
  exact noSource_ne_undecoded kind reason playerUrl same

theorem resolveOne_url_eq_none_iff :
    (resolver.resolveOne descriptor memo world).1.url = none ↔
      (Source.ofDescriptor descriptor).url = none := by
  cases found : (Source.ofDescriptor descriptor).url with
  | none =>
    simp only [resolveOne, found, iff_true]
    rfl
  | some url =>
    cases decodes : resolver.decoder with
    | none => simp [resolveOne, found, decodes, finish]
    | some decoder => simp [resolveOne_of_decoder decodes found, finish]

theorem noSource_mem_warnings_iff :
    LinkWarning.noSource.message ∈ (resolver.resolveOne descriptor memo world).1.warnings ↔
      Source.ofDescriptor descriptor = .missing := by
  cases found : (Source.ofDescriptor descriptor).url with
  | none =>
    have unnamed : LinkWarning.noSource.message ≠ LinkWarning.noUrl.message := by decide
    simp only [resolveOne, found, List.mem_singleton]
    cases Source.ofDescriptor descriptor with
    | missing => simp
    | direct url => exact iff_of_false unnamed (by simp)
    | ciphered query => exact iff_of_false unnamed (by simp)
  | some url =>
    refine iff_of_false ?_ ?_
    · cases decodes : resolver.decoder with
      | none =>
        simp only [resolveOne, found, decodes, finish]
        cases (Source.ofDescriptor descriptor).signature with
        | none => simp
        | some signature =>
          intro told
          exact noSource_ne_undecoded _ _ _ (List.mem_singleton.mp told)
      | some decoder =>
        rw [resolveOne_of_decoder decodes found]
        intro told
        rcases List.mem_append.mp told with first | second
        · exact noSource_not_mem_warnings _ _ _ first
        · exact noSource_not_mem_warnings _ _ _ second
    · intro missing
      rw [missing] at found
      cases found

theorem recovered_iff {resolver : Resolver} {descriptors : List Descriptor} {place : Nat}
    {descriptor : Descriptor} {link : Link} (listed : descriptors[place]? = some descriptor)
    (made : (resolver.resolve descriptors memo world).1[place]? = some link)
    (unshadowed : ¬ descriptor.Shadowed) :
    (link.url = none ↔ descriptor.directUrl = none ∧
        ∀ query,
          (Descriptor.nonEmpty descriptor.cipher).or
            (Descriptor.nonEmpty descriptor.signatureCipher) = some query →
          (CipherQuery.read query).url = none) ∧
      (LinkWarning.noSource.message ∈ link.warnings ↔
        ∀ field ∈ [descriptor.url, descriptor.cipher, descriptor.signatureCipher],
          field = none ∨ field = some []) := by
  rw [getElem?_resolve, listed, Option.map_some, Option.some.injEq] at made
  subst made
  dsimp only
  rw [resolveOne_url_eq_none_iff, noSource_mem_warnings_iff, Source.url_eq_none_iff,
    Source.eq_missing_iff]
  refine ⟨and_congr_right ?_, ?_⟩
  · intro indirect
    rw [Descriptor.cipherQuery_eq indirect unshadowed]
  · have absent : descriptor.directUrl = none ∧ descriptor.cipherQuery = none ↔
        descriptor.directUrl = none ∧ Descriptor.nonEmpty descriptor.cipher = none ∧
          Descriptor.nonEmpty descriptor.signatureCipher = none := by
      refine and_congr_right ?_
      intro indirect
      rw [Descriptor.cipherQuery_eq indirect unshadowed, Option.or_eq_none_iff]
    rw [absent, Descriptor.directUrl]
    simp only [Descriptor.nonEmpty_eq_none, List.forall_mem_cons, List.not_mem_nil, false_imp_iff,
      implies_true, and_true]

-- The address is empty, and so the query gives one.
theorem recovered_iff_queried :
    let stream : Descriptor := {
      itag := 18, url := some []
      signatureCipher := some "url=https%3A%2F%2Fh%2Fv".toList }
    let resolver : Resolver := ⟨none, none, []⟩
    let link : Link := { Link.ofDescriptor stream with url := some "https://h/v".toList }
    ([stream][0]? = some stream ∧ (resolver.resolve [stream] {} {}).1[0]? = some link ∧
        ¬ stream.Shadowed) ∧
      (∃ query, Descriptor.nonEmpty stream.signatureCipher = some query ∧
        (CipherQuery.read query).url ≠ none) ∧
      LinkWarning.noSource.message ∉ link.warnings := by
  intro stream resolver link
  have made : (resolver.resolve [stream] {} {}).1[0]? = some link := rfl
  have unshadowed : ¬ stream.Shadowed := by
    rintro ⟨-, hidden, -⟩
    cases hidden
  obtain ⟨lost, untold⟩ := recovered_iff rfl made unshadowed
  refine ⟨⟨rfl, made, unshadowed⟩, ?_, ?_⟩
  · refine Classical.byContradiction fun none => Option.some_ne_none _ (lost.mpr ⟨rfl, ?_⟩)
    intro query first
    exact Classical.byContradiction fun addressed => none ⟨query, first, addressed⟩
  · intro told
    have filled : ¬ (stream.signatureCipher = none ∨ stream.signatureCipher = some []) := by decide
    exact filled (untold.mp told stream.signatureCipher (by simp))

-- The query that counts has no address, while the one behind it has.
theorem recovered_from_no_other_query :
    let query := "url=https%3A%2F%2Fh%2Fv".toList
    let stream : Descriptor := {
      itag := 251, cipher := some "s=A".toList, signatureCipher := some query }
    let resolver : Resolver := ⟨none, none, []⟩
    (resolver.resolve [stream] {} {}).1.map (fun link => (link.url, link.warnings)) =
        [(none, [LinkWarning.noUrl.message])] ∧
      (CipherQuery.read query).url = some "https://h/v".toList := by
  exact ⟨rfl, rfl⟩

end Resolver
end StreamLinks
