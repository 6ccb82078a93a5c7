import Mathlib.Data.Finset.Card
import EnclaveSigner.Config
import EnclaveSigner.Rgb.Consignment

/-! # Mint claims

Each mint in the history of a bridged asset leaves a claim that consensus cannot
confirm. While rgb-lib validates a consignment it asks the resolver about each
claim. The resolver confirms a claim only against the one lock that its binder
gives for that lock id and amount, and keeps the pairs.
-/

namespace EnclaveSigner.Rgb

open Lib

/-- A mint of the history that consensus asks about. -/
structure Claim where
  opid : OpId
  witnessId : Txid
  amount : UInt64
  beforeBlock : UInt64
  deriving DecidableEq

structure MintAnchor where
  opid : OpId
  lockId : Word 32
  amount : UInt64
  beforeBlock : UInt64
  /-- The mint is in the bundle that a mint PSBT signs. -/
  inLastBundle : Bool
  deriving DecidableEq

structure BfaBridge where
  chainId : UInt64
  address : Address
  deriving DecidableEq

structure BoundAnchors where
  evmChainId : UInt64
  locks : List VerifiedLock
  deriving DecidableEq

abbrev AnchorBinder := BfaBridge → List MintAnchor → Result BoundAnchors

inductive ClaimResolverError where
  | resolverIssue (text : String)
  deriving DecidableEq

abbrev BridgeLocation := Genesis → Except String BfaBridge

def BfaBridge.fromGenesis (location : BridgeLocation) (genesis : Genesis) :
    Result BfaBridge :=
  (location genesis).mapError fun e => .crossCheck s!"BFA genesis bridge location: {e}"

def mintAnchor (rgb : RgbStd) (claim : Claim) (lastBundle : List OpId) : MintAnchor where
  opid := claim.opid
  lockId := rgb.lockId claim.opid claim.witnessId
  amount := claim.amount
  beforeBlock := claim.beforeBlock
  inLastBundle := lastBundle.contains claim.opid

/-- The locks must be the anchors, one for one. -/
def checkBijection (anchors : List MintAnchor) (locks : List VerifiedLock) :
    Result Unit :=
  let wanted := (anchors.map fun anchor => (anchor.lockId, anchor.amount)).toFinset
  let bound := (locks.map fun lock => (lock.lockId, lock.minted)).toFinset
  refuse (wanted.card ≠ anchors.length ∨ bound.card ≠ locks.length ∨ wanted ≠ bound)
    (.crossCheck (s!"the consignment carries {anchors.length} mint anchor(s) but " ++
      s!"{locks.length} lock(s) were bound to them - every mint needs exactly its own lock"))

theorem card_toFinset_eq_length {α : Type} [DecidableEq α] {items : List α} :
    items.toFinset.card = items.length ↔ items.Nodup :=
  Multiset.toFinset_card_eq_card_iff_nodup

def MintAnchor.key (anchor : MintAnchor) : Word 32 × UInt64 := (anchor.lockId, anchor.amount)

theorem checkBijection_ok {anchors : List MintAnchor} {locks : List VerifiedLock} {u : Unit}
    (same : locks.map (fun lock => (lock.lockId, lock.minted)) = anchors.map MintAnchor.key) :
    checkBijection anchors locks = .ok u ↔ (anchors.map MintAnchor.key).Nodup := by
  have length : locks.length = anchors.length := by
    simpa only [List.length_map] using congrArg List.length same
  have count : (anchors.map MintAnchor.key).toFinset.card = (anchors.map MintAnchor.key).length ↔
      (anchors.map MintAnchor.key).Nodup := card_toFinset_eq_length
  rw [List.length_map] at count
  unfold checkBijection
  rw [refuse_ok, same, length, ← count]
  change ¬ (_ ∨ _ ∨ (anchors.map MintAnchor.key).toFinset ≠ _) ↔ _
  tauto

structure BindingResolver where
  genesis : Genesis
  bind : AnchorBinder
  lastBundle : List OpId

structure Bindings where
  bound : List (MintAnchor × VerifiedLock)
  failure : Option EnclaveError

namespace BindingResolver

variable (rgb : RgbStd) (location : BridgeLocation)

def new (transfer : Transfer) (bind : AnchorBinder) : BindingResolver where
  genesis := transfer.genesis
  bind
  lastBundle := (transfer.bundles.getLast?.map fun wb =>
    wb.bundle.knownTransitions.map (·.opid)).getD []

def start : Bindings := ⟨[], none⟩

def intoLocks (bindings : Bindings) : Result (List VerifiedLock) := do
  let (anchors, locks) := bindings.bound.unzip
  checkBijection anchors locks
  pure locks

/-- Keep the error, which rgb-lib would report as one of its own. -/
def fail {α : Type} (error : EnclaveError) : EStateM ClaimResolverError Bindings α := fun bindings =>
  .error (.resolverIssue error.message) { bindings with failure := some error }

variable (resolver : BindingResolver)

def ask (anchors : List MintAnchor) : Result BoundAnchors := do
  let bridge ← BfaBridge.fromGenesis location resolver.genesis
  resolver.bind bridge anchors

def bindAnchors (anchors : List MintAnchor) :
    EStateM ClaimResolverError Bindings BoundAnchors := fun bindings =>
  match resolver.ask location anchors with
  | .ok bound => .ok bound bindings
  | .error error => fail error bindings

/-- An empty bind checks the bridge pins and names the chain they are on. -/
def evmChainId : EStateM ClaimResolverError Bindings UInt64 := do
  let bound ← resolver.bindAnchors location []
  pure bound.evmChainId

/-- The refusal of a claim that its binder gives no lock of its own. -/
def unbound (anchor : MintAnchor) (locks : List VerifiedLock) : EnclaveError :=
  .crossCheck (s!"{locks.length} lock(s) were bound to mint 0x{hexEncode anchor.opid.val} " ++
    s!"(lockId 0x{hexEncode anchor.lockId.val}) of {anchor.amount} units - every mint needs " ++
    "exactly its own lock")

def isConfirmed (claim : Claim) : EStateM ClaimResolverError Bindings Bool := do
  let anchor := mintAnchor rgb claim resolver.lastBundle
  let bound ← resolver.bindAnchors location [anchor]
  match bound.locks with
  | [lock] =>
      if lock.lockId = anchor.lockId ∧ lock.minted = anchor.amount then
        modify fun bindings => { bindings with bound := bindings.bound ++ [(anchor, lock)] }
        pure true
      else fail (unbound anchor [lock])
  | locks => fail (unbound anchor locks)

/-- What rgb-lib asks the resolver. -/
inductive Query where
  | evmChainId
  | isConfirmed (claim : Claim)
  deriving DecidableEq

/-- The claims that a series of questions got confirmed, in their order, and the
    cells it left. A refusal ends nothing here: rgb-lib may go on past it. -/
def run (bindings : Bindings) : List Query → List Claim × Bindings
  | [] => ([], bindings)
  | .evmChainId :: queries =>
      match resolver.evmChainId location bindings with
      | .ok _ bindings => run bindings queries
      | .error _ bindings => run bindings queries
  | .isConfirmed claim :: queries =>
      match resolver.isConfirmed rgb location claim bindings with
      | .ok true bindings =>
          let (claims, bindings) := run bindings queries
          (claim :: claims, bindings)
      | .ok false bindings => run bindings queries
      | .error _ bindings => run bindings queries

/-- The binder gave exactly this lock for this anchor. -/
structure Binds (anchor : MintAnchor) (lock : VerifiedLock) : Prop where
  bound : ∃ bridge evmChainId, resolver.bind bridge [anchor] = .ok ⟨evmChainId, [lock]⟩
  lockId : lock.lockId = anchor.lockId
  minted : lock.minted = anchor.amount

section Calls

variable {rgb location resolver} {anchors : List MintAnchor} {claim : Claim}
  {bindings bindings' : Bindings}

theorem bindAnchors_ok {bound : BoundAnchors}
    (done : resolver.bindAnchors location anchors bindings = .ok bound bindings') :
    (∃ bridge, resolver.bind bridge anchors = .ok bound) ∧ bindings' = bindings := by
  unfold bindAnchors at done
  split at done
  · rename_i bound' asked
    cases done
    obtain ⟨bridge, -, given⟩ := bind_ok.mp asked
    exact ⟨⟨bridge, given⟩, rfl⟩
  · cases done

theorem bindAnchors_error {error : ClaimResolverError}
    (failed : resolver.bindAnchors location anchors bindings = .error error bindings') :
    bindings'.bound = bindings.bound := by
  unfold bindAnchors at failed
  split at failed
  · cases failed
  · cases failed
    rfl

theorem isConfirmed_ok {answer : Bool}
    (done : resolver.isConfirmed rgb location claim bindings = .ok answer bindings') :
    answer = true ∧ ∃ lock, resolver.Binds (mintAnchor rgb claim resolver.lastBundle) lock ∧
      bindings'.bound = bindings.bound ++ [(mintAnchor rgb claim resolver.lastBundle, lock)] := by
  simp only [isConfirmed, run_bind_ok] at done
  obtain ⟨⟨evmChainId, locks⟩, middle, asked, done⟩ := done
  obtain ⟨⟨bridge, given⟩, rfl⟩ := bindAnchors_ok asked
  match locks with
  | [] => cases done
  | [lock] =>
      by_cases own : lock.lockId = (mintAnchor rgb claim resolver.lastBundle).lockId ∧
          lock.minted = (mintAnchor rgb claim resolver.lastBundle).amount
      · simp only [if_pos own] at done
        cases done
        exact ⟨rfl, lock, ⟨⟨bridge, evmChainId, given⟩, own.1, own.2⟩, rfl⟩
      · simp only [if_neg own] at done
        cases done
  | _ :: _ :: _ => cases done

theorem isConfirmed_error {error : ClaimResolverError}
    (failed : resolver.isConfirmed rgb location claim bindings = .error error bindings') :
    bindings'.bound = bindings.bound := by
  simp only [isConfirmed, run_bind_error] at failed
  obtain failed | ⟨⟨evmChainId, locks⟩, middle, asked, failed⟩ := failed
  · exact bindAnchors_error failed
  · obtain ⟨-, rfl⟩ := bindAnchors_ok asked
    match locks with
    | [] =>
        cases failed
        rfl
    | [lock] =>
        by_cases own : lock.lockId = (mintAnchor rgb claim resolver.lastBundle).lockId ∧
            lock.minted = (mintAnchor rgb claim resolver.lastBundle).amount
        · simp only [if_pos own] at failed
          cases failed
        · simp only [if_neg own] at failed
          cases failed
          rfl
    | _ :: _ :: _ =>
        cases failed
        rfl

theorem evmChainId_ok {chainId : UInt64}
    (done : resolver.evmChainId location bindings = .ok chainId bindings') :
    bindings'.bound = bindings.bound := by
  obtain ⟨bound, middle, asked, ends⟩ := run_bind_ok.mp done
  cases ends
  obtain ⟨-, rfl⟩ := bindAnchors_ok asked
  rfl

theorem evmChainId_error {error : ClaimResolverError}
    (failed : resolver.evmChainId location bindings = .error error bindings') :
    bindings'.bound = bindings.bound := by
  obtain failed | ⟨bound, middle, asked, impossible⟩ := run_bind_error.mp failed
  · exact bindAnchors_error failed
  · cases impossible

end Calls

theorem run_bound (bindings : Bindings) (queries : List Query) :
    ∃ added, (resolver.run rgb location bindings queries).2.bound = bindings.bound ++ added ∧
      added.map Prod.fst = (resolver.run rgb location bindings queries).1.map
        (mintAnchor rgb · resolver.lastBundle) ∧
      ∀ pair ∈ added, resolver.Binds pair.1 pair.2 := by
  induction queries generalizing bindings with
  | nil => exact ⟨[], (List.append_nil _).symm, rfl, nofun⟩
  | cons query queries ih =>
      cases query with
      | evmChainId =>
          unfold run
          split
          · rename_i chainId bindings' done
            rw [← evmChainId_ok done]
            exact ih _
          · rename_i error bindings' failed
            rw [← evmChainId_error failed]
            exact ih _
      | isConfirmed claim =>
          unfold run
          split
          · rename_i bindings' done
            obtain ⟨-, lock, binds, kept⟩ := isConfirmed_ok done
            obtain ⟨added, bound, anchors, each⟩ := ih bindings'
            refine ⟨(mintAnchor rgb claim resolver.lastBundle, lock) :: added, ?_, ?_, ?_⟩
            · rw [bound, kept, List.append_assoc]
              rfl
            · exact congrArg (List.cons _) anchors
            · intro pair member
              rcases List.mem_cons.mp member with rfl | later
              · exact binds
              · exact each pair later
          · rename_i bindings' done
            cases (isConfirmed_ok done).1
          · rename_i error bindings' failed
            rw [← isConfirmed_error failed]
            exact ih _

section IntoLocks

variable {resolver} {bindings : Bindings}
  (each : ∀ pair ∈ bindings.bound, resolver.Binds pair.1 pair.2)

include each

theorem intoLocks_ok {locks : List VerifiedLock} :
    intoLocks bindings = .ok locks ↔
      ((bindings.bound.map Prod.fst).map MintAnchor.key).Nodup ∧
        locks = bindings.bound.map Prod.snd := by
  have same : (bindings.bound.map Prod.snd).map (fun lock => (lock.lockId, lock.minted)) =
      (bindings.bound.map Prod.fst).map MintAnchor.key := by
    rw [List.map_map, List.map_map]
    refine List.map_congr_left fun pair member => ?_
    exact Prod.ext (each pair member).lockId (each pair member).minted
  have passes := checkBijection_ok (u := ()) same
  rw [intoLocks, List.unzip_eq_map, bind_ok]
  constructor
  · rintro ⟨_, checked, ends⟩
    cases ends
    exact ⟨passes.mp checked, rfl⟩
  · rintro ⟨distinct, rfl⟩
    exact ⟨(), passes.mpr distinct, rfl⟩

end IntoLocks

end BindingResolver

end EnclaveSigner.Rgb
