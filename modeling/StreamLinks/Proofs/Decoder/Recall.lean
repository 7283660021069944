import StreamLinks.Proofs.Decoder.Steady
import StreamLinks.Proofs.Engine.Runs
/-!
The memo as a map.

After any uses of a decoder its memo holds, for each token of each kind, the value that was settled
last: a decoded one or one that was given. A token with such a value is never decoded again, and any
other is decoded as by a fresh decoder, whatever the engine does.
-/
namespace StreamLinks.Decoder
variable {decoder : Decoder}

inductive Use where
  | decode (kind : TokenKind) (token : Text)
  | remember (kind : TokenKind) (token value : Text)

-- What a use is about.
def Use.key : Use → TokenKind × Text
  | decode kind token => (kind, token)
  | remember kind token _ => (kind, token)

-- The memo and the world after a use.
def perform (decoder : Decoder) : Use → Memo × World → Memo × World
  | .decode kind token, (memo, world) => (decoder.decode kind token memo world).2
  | .remember kind token value, (memo, world) => (memo.insert kind token value, world)

-- The value that a use settles, which a failure does not.
def settled (decoder : Decoder) : Use → Memo × World → Option Text
  | .decode kind token, (memo, world) => (decoder.decode kind token memo world).1.toOption
  | .remember _ _ value, _ => some value

def run (decoder : Decoder) : List Use → Memo × World → Memo × World
  | [], state => state
  | use :: uses, state => decoder.run uses (decoder.perform use state)

-- The values that are settled one after the other, the newest first.
def history (decoder : Decoder) : List Use → Memo × World → List ((TokenKind × Text) × Text)
  | [], _ => []
  | use :: uses, state =>
    decoder.history uses (decoder.perform use state) ++
      ((decoder.settled use state).map (use.key, ·)).toList

-- The value that was settled last for a token.
def latest? (decoder : Decoder) (uses : List Use) (state : Memo × World) (kind : TokenKind)
    (token : Text) : Option Text := (decoder.history uses state).lookup (kind, token)

-- Decoding keeps a success of the call itself, and nothing else.
theorem decode_memo (decoder : Decoder) (kind : TokenKind) (token : Text) (memo : Memo)
    (world : World) :
    (decoder.decode kind token memo world).2.1 =
      match memo.get? kind token, (decoder.decode kind token memo world).1 with
      | none, .ok value => memo.insert kind token value
      | _, _ => memo := by
  cases kept : memo.get? kind token with
  | some value => simp only [decode_of_kept kept]
  | none =>
    simp only [decode, Memo.getOrCall, kept]
    rcases decoder.decodeFresh kind token world with ⟨outcome, after⟩
    cases outcome <;> rfl

-- What is settled for a token stands in the memo afterwards, and a failure leaves the memo alone.
theorem get?_perform_self (decoder : Decoder) (use : Use) (state : Memo × World) :
    (decoder.perform use state).1.get? use.key.1 use.key.2 =
      (decoder.settled use state).or (state.1.get? use.key.1 use.key.2) := by
  obtain ⟨memo, world⟩ := state
  cases use with
  | remember kind token value => exact Memo.get?_insert memo kind token value
  | decode kind token =>
    simp only [perform, settled, Use.key]
    cases kept : memo.get? kind token with
    | some value => simp [decode_of_kept kept, kept, Except.toOption]
    | none =>
      rw [decode_memo, kept]
      cases (decoder.decode kind token memo world).1 with
      | error failure => exact kept
      | ok value => exact Memo.get?_insert memo kind token value

theorem get?_perform_of_ne (decoder : Decoder) {use : Use} {key : TokenKind × Text}
    (different : key ≠ use.key) (state : Memo × World) :
    (decoder.perform use state).1.get? key.1 key.2 = state.1.get? key.1 key.2 := by
  obtain ⟨memo, world⟩ := state
  cases use with
  | remember kind token value => exact Memo.get?_insert_of_ne memo value different
  | decode kind token =>
    simp only [perform]
    rw [decode_memo]
    split
    · exact Memo.get?_insert_of_ne memo _ different
    · rfl

-- The history of one more use at the front.
theorem latest?_cons (decoder : Decoder) (use : Use) (uses : List Use) (state : Memo × World)
    (kind : TokenKind) (token : Text) :
    decoder.latest? (use :: uses) state kind token =
      (decoder.latest? uses (decoder.perform use state) kind token).or
        (if (kind, token) = use.key then decoder.settled use state else none) := by
  rw [latest?, history, List.lookup_append, latest?]
  congr 1
  cases decoder.settled use state with
  | none => simp
  | some value =>
    by_cases same : (kind, token) = use.key
    · simp [same]
    · have skip : ((kind, token) == use.key) = false := by simpa using same
      simp [List.lookup_cons, skip, same]

-- The run lemma: the memo holds what was settled last, or what it held before.
theorem get?_run (decoder : Decoder) (uses : List Use) (state : Memo × World) (kind : TokenKind)
    (token : Text) :
    (decoder.run uses state).1.get? kind token =
      (decoder.latest? uses state kind token).or (state.1.get? kind token) := by
  induction uses generalizing state with
  | nil => rfl
  | cons use uses ih =>
    rw [run, ih, latest?_cons, Option.or_assoc]
    congr 1
    by_cases same : (kind, token) = use.key
    · rw [if_pos same]
      have here := get?_perform_self decoder use state
      rwa [← same] at here
    · rw [if_neg same, Option.none_or]
      exact get?_perform_of_ne decoder same state

theorem prepared_eq (script : Text) (runtime : Runtime) (kind : TokenKind) :
    (ofScript script runtime).prepared kind = prepare kind script := by
  cases kind <;> rfl

-- The transform is there, but its steps are not known, so it has to be run.
def NeedsEngine (kind : TokenKind) (script : Text) : Prop :=
  ∃ transform, Script.transform? kind script = .ok transform ∧
    Transform.classify transform.body script = none

theorem needsEngine_of_prepare {kind : TokenKind} {script : Text} {prepared : Prepared}
    (ready : prepare kind script = .ok prepared) (unknown : prepared.instructions = none) :
    NeedsEngine kind script := by
  unfold prepare at ready
  cases found : Script.transform? kind script with
  | error error => simp [found, Except.map] at ready
  | ok transform =>
    simp only [found, Except.map, Except.ok.injEq] at ready
    subst ready
    exact ⟨transform, found, unknown⟩

-- At most one source is run, and none where the transform is missing or its steps are known.
theorem decodeFresh_snd (script : Text) (runtime : Runtime) (kind : TokenKind) (token : Text)
    (world : World) :
    ((ofScript script runtime).decodeFresh kind token world).2 = world ∨
      NeedsEngine kind script ∧ ∃ code trace,
        ((ofScript script runtime).decodeFresh kind token world).2 = { world.ran code with trace } := by
  rw [decodeFresh, prepared_eq]
  cases ready : prepare kind script with
  | error error => exact .inl rfl
  | ok prepared =>
    cases known : prepared.instructions with
    | some instructions =>
      left
      simp only [known]
    | none =>
      simp only [known]
      exact (Runtime.run_snd runtime kind callTemplate _ token world).imp_right
        fun ran => ⟨needsEngine_of_prepare ready known, ran⟩

theorem decode_snd_of_unkept {memo : Memo} {kind : TokenKind} {token : Text}
    (unkept : memo.get? kind token = none) (world : World) :
    (decoder.decode kind token memo world).2.2 = (decoder.decodeFresh kind token world).2 := by
  simp only [decode, Memo.getOrCall, unkept]
  rcases decoder.decodeFresh kind token world with ⟨outcome, after⟩
  cases outcome <;> rfl

theorem decode_recalls (script : Text) (runtime : Runtime) (uses : List Use) (world : World) :
    let decoder := ofScript script runtime
    let state := decoder.run uses ({}, world)
    (∀ kind token, state.1.get? kind token = decoder.latest? uses ({}, world) kind token) ∧
      (∀ kind token,
        let decoded := decoder.decode kind token state.1 state.2
        let alone := decoder.decode kind token {} state.2
        match decoder.latest? uses ({}, world) kind token with
        | some value => decoded = (.ok value, state)
        | none =>
          (decoded.1 = alone.1 ∧ decoded.2.2 = alone.2.2) ∧
            (decoded.2.2 = state.2 ∨
              NeedsEngine kind script ∧ ∃ code trace, decoded.2.2 = { state.2.ran code with trace }) ∧
            ∀ failure, decoded.1 = .error failure → decoded.2.1 = state.1) ∧
      ∀ use key, key ≠ use.key →
        (decoder.perform use state).1.get? key.1 key.2 = state.1.get? key.1 key.2 := by
  intro decoder state
  have recalled (kind : TokenKind) (token : Text) :
      state.1.get? kind token = decoder.latest? uses ({}, world) kind token := by
    rw [get?_run]
    exact Option.or_none
  refine ⟨recalled, ?_, ?_⟩
  · intro kind token decoded alone
    cases latest : decoder.latest? uses ({}, world) kind token with
    | some value => exact decode_of_kept ((recalled kind token).trans latest) state.2
    | none =>
      have unkept := (recalled kind token).trans latest
      refine ⟨decode_of_unkept unkept state.2, ?_, ?_⟩
      · simp only [decoded, decode_snd_of_unkept unkept]
        exact decodeFresh_snd script runtime kind token state.2
      · intro failure failed
        simp only [decoded] at failed ⊢
        rw [decode_memo, unkept, failed]
  · intro use key different
    exact get?_perform_of_ne decoder different state

-- A transform whose steps are not known, over an engine that never answers the same twice.
def countingScript : Text :=
  "a.D&&(b=a.get(\"n\"))&&(b=Rt(b),a.set(\"n\",b));Rt=function(a)\x7breturn a+1\x7d;".toList

def counter : Runtime :=
  .ready (.scripted "worker".toList fun earlier _ => .ok ('v' :: Text.ofNat earlier.length))

def twoSettled : List Use :=
  [.decode .throttle "t".toList, .remember .throttle "s".toList "S".toList]

theorem decode_recalls_counter :
    let decoder := ofScript countingScript counter
    let state := decoder.run twoSettled ({}, {})
    let other : Use := .remember .throttle "u".toList "U".toList
    (decoder.latest? twoSettled ({}, {}) .throttle "t".toList = some "v0".toList ∧
        decoder.decode .throttle "t".toList state.1 state.2 = (.ok "v0".toList, state)) ∧
      (decoder.latest? twoSettled ({}, {}) .throttle "u".toList = none ∧
        (decoder.decode .throttle "u".toList state.1 state.2).1 =
          (decoder.decode .throttle "u".toList {} state.2).1) ∧
      (.throttle, "t".toList) ≠ other.key ∧
        (decoder.perform other state).1.get? .throttle "t".toList =
          state.1.get? .throttle "t".toList := by
  intro decoder state other
  have settled : decoder.latest? twoSettled ({}, {}) .throttle "t".toList = some "v0".toList := by
    decide
  have unsettled : decoder.latest? twoSettled ({}, {}) .throttle "u".toList = none := by
    decide
  have different : (.throttle, "t".toList) ≠ other.key := by decide
  obtain ⟨-, decoded, others⟩ := decode_recalls countingScript counter twoSettled {}
  have again := decoded .throttle "t".toList
  have first := decoded .throttle "u".toList
  rw [settled] at again
  rw [unsettled] at first
  exact ⟨⟨settled, again⟩, ⟨unsettled, first.1.1⟩, different, others other _ different⟩

end StreamLinks.Decoder
