import Mathlib.Data.List.Forall2
import Mathlib.Data.List.Basic

/-! A signed transaction of the asset chain: checking its credentials, and signing it one credential per group of keys. -/

namespace AvalancheGo

/-- An unsigned transaction: what its methods read, and the two byte strings `Initialize` records. -/
structure UnsignedTx (Body : Type) where
  body : Body
  unsignedBytes : List UInt8
  bytes : List UInt8

/-- `Initialize`: record the unsigned and the signed bytes. -/
def UnsignedTx.init {Body : Type} (u : UnsignedTx Body) (unsignedBytes bytes : List UInt8) : UnsignedTx Body :=
  { u with unsignedBytes, bytes }

/-- A `Tx`: the unsigned transaction, an interface that may be nil, and its credentials. -/
structure Tx (Body Cred : Type) where
  unsignedTx : Option (UnsignedTx Body)
  creds : List Cred

/-- The errors of `Tx.SyntacticVerify`. -/
inductive TxVerifyError
  | errNilTx
  /-- "should have the same number of credentials as inputs" -/
  | errWrongNumberOfCredentials
  /-- an error passed on from the unsigned transaction's `SyntacticVerify` or a credential's `Verify` -/
  | check (message : String)
deriving DecidableEq, Repr

/-- What `Tx.SyntacticVerify` asks of the unsigned transaction and the credentials, as the answers they give. -/
structure TxChecks (Body Cred : Type) where
  syntacticVerify : Body → Option String
  numCredentials : Body → Nat
  credVerify : Cred → Option String

variable {Body Cred Key : Type}

/--
`Tx.SyntacticVerify`: a nil transaction or unsigned transaction is refused, then the unsigned
transaction is checked, then each credential in turn, and last the number of credentials against
`NumCredentials`.
-/
def Tx.syntacticVerify (checks : TxChecks Body Cred) : Option (Tx Body Cred) → Option TxVerifyError
  | none => some .errNilTx
  | some t =>
    match t.unsignedTx with
    | none => some .errNilTx
    | some u =>
      match checks.syntacticVerify u.body with
      | some err => some (.check err)
      | none =>
        match t.creds.findSome? checks.credVerify with
        | some err => some (.check err)
        | none => if checks.numCredentials u.body ≠ t.creds.length then some .errWrongNumberOfCredentials else none

/--
What signing reads: `codec.Marshal` of the unsigned transaction and of the signed one,
`hashing.ComputeHash256`, each key's `SignHash`, the width `crypto.SECP256K1RSigLen` of a
signature, and the credential types `secp256k1fx.Credential` and `nftfx.Credential` as the
`verify.Verifiable`s a transaction holds.
-/
structure SignEnv (Body Cred Key : Type) where
  marshalUnsigned : Option Body → Except String (List UInt8)
  marshalTx : Option Body → List Cred → Except String (List UInt8)
  computeHash256 : List UInt8 → List UInt8
  signHash : Key → List UInt8 → Except String (List UInt8)
  sigLen : Nat
  secp256k1fxCredential : List (List UInt8) → Cred
  nftfxCredential : List (List UInt8) → Cred

/-- What `copy` leaves in a zeroed fixed-width array: the signature's first `width` bytes, then zeros. -/
def copySig (width : Nat) (sig : List UInt8) : List UInt8 :=
  sig.take width ++ List.replicate (width - sig.length) 0

/-- The inner loop of signing: each key's signature of the hash, copied into its slot, or the first failure. -/
def SignEnv.signKeys (env : SignEnv Body Cred Key) (hash : List UInt8) : List Key → Except String (List (List UInt8))
  | [] => .ok []
  | key :: rest =>
    match env.signHash key hash with
    | .error err => .error ("problem creating transaction: " ++ err)
    | .ok sig => (env.signKeys hash rest).map (copySig env.sigLen sig :: ·)

/-- The outer loop of signing: one credential per group of keys, appended to the credentials as it goes. -/
def SignEnv.signGroups (env : SignEnv Body Cred Key) (credential : List (List UInt8) → Cred) (hash : List UInt8) :
    List Cred → List (List Key) → List Cred × Option String
  | creds, [] => (creds, none)
  | creds, keys :: rest =>
    match env.signKeys hash keys with
    | .error err => (creds, some err)
    | .ok sigs => env.signGroups credential hash (creds ++ [credential sigs]) rest

/--
The body `SignSECP256K1Fx` and `SignNFTFx` share, for the credential type each makes: marshal and
hash the unsigned transaction, append a credential per group of keys, marshal the signed
transaction, and `Initialize` it with both byte strings. On a nil unsigned transaction, had the
codec accepted it, Go would fault in `Initialize`; the model leaves it nil.
-/
def Tx.signWith (env : SignEnv Body Cred Key) (credential : List (List UInt8) → Cred) (t : Tx Body Cred)
    (signers : List (List Key)) : Tx Body Cred × Option String :=
  match env.marshalUnsigned (t.unsignedTx.map UnsignedTx.body) with
  | .error err => (t, some ("problem creating transaction: " ++ err))
  | .ok unsignedBytes =>
    match env.signGroups credential (env.computeHash256 unsignedBytes) t.creds signers with
    | (creds, some err) => ({ t with creds }, some err)
    | (creds, none) =>
      match env.marshalTx (t.unsignedTx.map UnsignedTx.body) creds with
      | .error err => ({ t with creds }, some ("problem creating transaction: " ++ err))
      | .ok signedBytes => ({ unsignedTx := t.unsignedTx.map (·.init unsignedBytes signedBytes), creds }, none)

/-- `Tx.SignSECP256K1Fx`: each group's signatures become a `secp256k1fx.Credential`. -/
def Tx.signSECP256K1Fx (env : SignEnv Body Cred Key) (t : Tx Body Cred) (signers : List (List Key)) :
    Tx Body Cred × Option String :=
  t.signWith env env.secp256k1fxCredential signers

/-- `Tx.SignNFTFx`: each group's signatures become an `nftfx.Credential`. -/
def Tx.signNFTFx (env : SignEnv Body Cred Key) (t : Tx Body Cred) (signers : List (List Key)) :
    Tx Body Cred × Option String :=
  t.signWith env env.nftfxCredential signers

/-- A copied signature fills its slot exactly. -/
@[simp] theorem copySig_length (width : Nat) (sig : List UInt8) : (copySig width sig).length = width := by
  simp only [copySig, List.length_append, List.length_take, List.length_replicate]
  omega

/--
A credential made for a group of keys: one slot per key, in order, holding what that key's
`SignHash` of the hash returned, copied into its slot.
-/
def SignEnv.SignedGroup (env : SignEnv Body Cred Key) (hash : List UInt8) (credential : List (List UInt8) → Cred)
    (keys : List Key) (cred : Cred) : Prop :=
  ∃ sigs, cred = credential sigs ∧
    List.Forall₂ (fun key sig => ∃ signed, env.signHash key hash = .ok signed ∧ sig = copySig env.sigLen signed) keys sigs

/-- The inner loop succeeds with the slots of each key's signature, in order. -/
theorem signKeys_eq_ok (env : SignEnv Body Cred Key) (hash : List UInt8) {keys : List Key}
    {sigs : List (List UInt8)} (ok : env.signKeys hash keys = .ok sigs) :
    List.Forall₂ (fun key sig => ∃ signed, env.signHash key hash = .ok signed ∧ sig = copySig env.sigLen signed) keys sigs := by
  -- Each key signed the hash, and its slot holds the copied signature.
  induction keys generalizing sigs with
  | nil => cases ok; exact .nil
  | cons key rest ih =>
    simp only [SignEnv.signKeys] at ok
    cases signed : env.signHash key hash with
    | error err => simp only [signed] at ok; cases ok
    | ok sig =>
      cases others : env.signKeys hash rest with
      | error err => simp only [signed, others, Except.map] at ok; cases ok
      | ok slots =>
        simp only [signed, others, Except.map, Except.ok.injEq] at ok
        subst ok
        exact .cons ⟨sig, signed, rfl⟩ (ih others)

/--
The outer loop appends, to the credentials it starts from, one credential per group it gets
through, in order; it either gets through every group with no error, or stops at the first group
whose keys fail to sign, with that group's error and the credentials of the groups before it.
-/
theorem signGroups_appends (env : SignEnv Body Cred Key) (credential : List (List UInt8) → Cred) (hash : List UInt8)
    (signers : List (List Key)) (creds : List Cred) :
    ∃ added, (env.signGroups credential hash creds signers).1 = creds ++ added ∧
      List.Forall₂ (env.SignedGroup hash credential) (signers.take added.length) added ∧
      (added.length = signers.length ∧ (env.signGroups credential hash creds signers).2 = none ∨
        ∃ keys err, signers[added.length]? = some keys ∧ env.signKeys hash keys = .error err ∧
          (env.signGroups credential hash creds signers).2 = some err) := by
  -- One group at a time: a failing group stops the loop, and a signing one appends its credential.
  induction signers generalizing creds with
  | nil => exact ⟨[], (List.append_nil creds).symm, .nil, .inl ⟨rfl, rfl⟩⟩
  | cons keys rest ih =>
    cases group : env.signKeys hash keys with
    | error err =>
      -- The group fails: nothing more is appended, and its error is returned.
      have stopped : env.signGroups credential hash creds (keys :: rest) = (creds, some err) := by
        simp only [SignEnv.signGroups, group]
      exact ⟨[], by rw [stopped, List.append_nil], .nil, .inr ⟨keys, err, by rw [List.length_nil, List.getElem?_cons_zero], group, by rw [stopped]⟩⟩
    | ok sigs =>
      -- The group's credential goes on, and the rest of the loop appends after it.
      obtain ⟨added, appended, signed, stopped⟩ := ih (creds ++ [credential sigs])
      refine ⟨credential sigs :: added,
        by simp only [SignEnv.signGroups, group, appended, List.append_assoc, List.singleton_append],
        .cons ⟨sigs, rfl, signKeys_eq_ok env hash group⟩ signed, ?_⟩
      simpa only [List.length_cons, Nat.add_right_cancel_iff, SignEnv.signGroups, group, List.getElem?_cons_succ] using stopped

/-- Once the unsigned transaction marshals, signing keeps the credentials the loop leaves, and returns a failed group's error. -/
theorem signWith_of_marshalled (env : SignEnv Body Cred Key) (credential : List (List UInt8) → Cred)
    (t : Tx Body Cred) (signers : List (List Key)) {unsignedBytes : List UInt8}
    (marshalled : env.marshalUnsigned (t.unsignedTx.map UnsignedTx.body) = .ok unsignedBytes) :
    (t.signWith env credential signers).1.creds =
        (env.signGroups credential (env.computeHash256 unsignedBytes) t.creds signers).1 ∧
      ∀ err, (env.signGroups credential (env.computeHash256 unsignedBytes) t.creds signers).2 = some err →
        (t.signWith env credential signers).2 = some err := by
  -- After the loop only the signed transaction's marshal is left, and it keeps the credentials.
  rcases looped : env.signGroups credential (env.computeHash256 unsignedBytes) t.creds signers with ⟨creds, _ | failure⟩
  · cases marshalledTx : env.marshalTx (t.unsignedTx.map UnsignedTx.body) creds <;>
      simp [Tx.signWith, marshalled, looped, marshalledTx]
  · simp [Tx.signWith, marshalled, looped]

/--
Signing, with either credential type, is not atomic. When the unsigned transaction fails to
marshal, the transaction is left as it was. Otherwise its credentials become those it had followed
by one credential for each group of keys before the first group that fails to sign, in order, each
holding in its slots the signatures of the group's keys over the hash of the marshalled unsigned
transaction; either every group signs, or the first failing group's error is returned and the
credentials of the groups before it stay.
-/
theorem sign_appends_credentials (env : SignEnv Body Cred Key) (credential : List (List UInt8) → Cred)
    (t : Tx Body Cred) (signers : List (List Key)) :
    (∀ err, env.marshalUnsigned (t.unsignedTx.map UnsignedTx.body) = .error err →
      t.signWith env credential signers = (t, some ("problem creating transaction: " ++ err))) ∧
    ∀ unsignedBytes, env.marshalUnsigned (t.unsignedTx.map UnsignedTx.body) = .ok unsignedBytes →
      ∃ added, (t.signWith env credential signers).1.creds = t.creds ++ added ∧
        List.Forall₂ (env.SignedGroup (env.computeHash256 unsignedBytes) credential) (signers.take added.length) added ∧
        (added.length = signers.length ∨ ∃ keys err, signers[added.length]? = some keys ∧
          env.signKeys (env.computeHash256 unsignedBytes) keys = .error err ∧
          (t.signWith env credential signers).2 = some err) := by
  -- A failed marshal returns at once; otherwise the loop's credentials and error are the signing's.
  refine ⟨fun err failed => by simp [Tx.signWith, failed], fun unsignedBytes marshalled => ?_⟩
  -- The credentials are the loop's, and a group's failure is the signing's.
  obtain ⟨kept, failed⟩ := signWith_of_marshalled env credential t signers marshalled
  obtain ⟨added, appended, signed, stopped⟩ :=
    signGroups_appends env credential (env.computeHash256 unsignedBytes) signers t.creds
  refine ⟨added, kept.trans appended, signed, ?_⟩
  rcases stopped with ⟨all, -⟩ | ⟨keys, err, at_index, group, looped⟩
  · exact .inl all
  · exact .inr ⟨keys, err, at_index, group, failed err looped⟩

/-- `Tx.SyntacticVerify` passes exactly when the unsigned transaction is there and verifies, every credential verifies, and they are as many as it asks for. -/
theorem syntacticVerify_eq_none_iff (checks : TxChecks Body Cred) (t : Tx Body Cred) :
    Tx.syntacticVerify checks (some t) = none ↔ ∃ body ∈ t.unsignedTx.map UnsignedTx.body,
      checks.syntacticVerify body = none ∧ (∀ cred ∈ t.creds, checks.credVerify cred = none) ∧
      checks.numCredentials body = t.creds.length := by
  -- The nil checks first, then the unsigned check, the credentials and the count.
  rcases t with ⟨_ | u, creds⟩
  · simp [Tx.syntacticVerify]
  · -- The unsigned check, then the first failing credential, then the count.
    simp only [Tx.syntacticVerify, Option.map_some', Option.mem_def, Option.some.injEq, exists_eq_left']
    cases unsigned : checks.syntacticVerify u.body with
    | some err => simp
    | none =>
      cases found : creds.findSome? checks.credVerify with
      | some err =>
        have failed : ¬∀ cred ∈ creds, checks.credVerify cred = none := fun all =>
          by rw [List.findSome?_eq_none_iff.2 all] at found; cases found
        simp [failed]
      | none => simp [iff_true_intro (List.findSome?_eq_none_iff.1 found)]

/-- Signing keeps the unsigned transaction's body: `Initialize` records only bytes. -/
theorem signWith_body (env : SignEnv Body Cred Key) (credential : List (List UInt8) → Cred) (t : Tx Body Cred)
    (signers : List (List Key)) :
    (t.signWith env credential signers).1.unsignedTx.map UnsignedTx.body = t.unsignedTx.map UnsignedTx.body := by
  -- No branch of signing touches the body.
  unfold Tx.signWith
  split
  · rfl
  · split
    · rfl
    · split
      · rfl
      · rw [Option.map_map]
        rfl

/--
A transaction signed without error, with either credential type, passes `SyntacticVerify` exactly
when its unsigned transaction is there and verifies, every credential verifies, and the unsigned
transaction asks for as many credentials as it had before plus one per group of keys.
-/
theorem signed_tx_verifies (checks : TxChecks Body Cred) (env : SignEnv Body Cred Key)
    (credential : List (List UInt8) → Cred) (t : Tx Body Cred) (signers : List (List Key))
    (signed : (t.signWith env credential signers).2 = none) :
    Tx.syntacticVerify checks (some (t.signWith env credential signers).1) = none ↔
      ∃ u ∈ t.unsignedTx, checks.syntacticVerify u.body = none ∧
        (∀ cred ∈ (t.signWith env credential signers).1.creds, checks.credVerify cred = none) ∧
        checks.numCredentials u.body = t.creds.length + signers.length := by
  -- Signing without error got past the marshal and through every group, each adding one credential.
  cases marshalled : env.marshalUnsigned (t.unsignedTx.map UnsignedTx.body) with
  | error err => simp [Tx.signWith, marshalled] at signed
  | ok unsignedBytes =>
    obtain ⟨kept, failed⟩ := signWith_of_marshalled env credential t signers marshalled
    obtain ⟨added, appended, -, stopped⟩ :=
      signGroups_appends env credential (env.computeHash256 unsignedBytes) signers t.creds
    have counted : added.length = signers.length := by
      rcases stopped with ⟨all, -⟩ | ⟨keys, err, -, -, looped⟩
      · exact all
      · rw [failed err looped] at signed
        cases signed
    rw [syntacticVerify_eq_none_iff, signWith_body, Option.exists_mem_map, kept, appended, List.length_append,
      counted]

/-- A transaction with no credentials, signed by one group of one key, whose unsigned part asks for one credential. -/
theorem signed_tx_verifies_one_group :
    let checks : TxChecks Unit (List (List UInt8)) := ⟨fun _ => none, fun _ => 1, fun _ => none⟩
    let env : SignEnv Unit (List (List UInt8)) Unit :=
      ⟨fun _ => .ok [], fun _ _ => .ok [], id, fun _ _ => .ok [1], 65, id, id⟩
    let t : Tx Unit (List (List UInt8)) := ⟨some ⟨(), [], []⟩, []⟩
    (t.signWith env env.secp256k1fxCredential [[()]]).2 = none ∧
    (Tx.syntacticVerify checks (some (t.signWith env env.secp256k1fxCredential [[()]]).1) = none ↔
      ∃ u ∈ t.unsignedTx, checks.syntacticVerify u.body = none ∧
        (∀ cred ∈ (t.signWith env env.secp256k1fxCredential [[()]]).1.creds, checks.credVerify cred = none) ∧
        checks.numCredentials u.body = t.creds.length + [[()]].length) := by
  intro checks env t
  have signed : (t.signWith env env.secp256k1fxCredential [[()]]).2 = none := rfl
  exact ⟨signed, signed_tx_verifies checks env _ t _ signed⟩

end AvalancheGo
