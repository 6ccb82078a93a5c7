import EnclaveSigner.Parent.SeedPersistence

/-! # Agreement of the launches

Launches that share a store which creates only what is absent agree on one seed:
the one that the KMS decrypts from the persisted blob.
-/

namespace EnclaveSigner

open Lib Task

section Rules

variable {σ : Type} (persisted : Bytes → σ → Prop)

/-- What is persisted before is persisted after. -/
def Keeps (before after : σ) : Prop := ∀ blob, persisted blob before → persisted blob after

/-- The rules for a task next to others that keep what is persisted. -/
abbrev Guarded {α : Type} (task : Task σ EnclaveError α) (post : α → (σ → Prop) → Prop)
    (holds : σ → Prop) : Prop :=
  task.Meets (fun _ => True) (Keeps persisted) (Keeps persisted) post holds

/-- A store keeps what is persisted, and what it returns is persisted from then
    on. -/
structure SoundStore (store : SeedStore σ) : Prop where
  load : ∀ deadline, Guarded persisted (store.load deadline)
    (fun saved later => ∀ blob, saved = some blob → ∀ world, later world → persisted blob world)
    fun _ => True
  create : ∀ blob deadline, Guarded persisted (store.create blob deadline)
    (fun committed later => ∀ world, later world → persisted committed world) fun _ => True

/-- The keys of the ciphertext `blob`, as this launch may return them: without a
    pin the blob is its own, and with a pin the address is the pinned one. -/
structure Launch.Restored {kms : Kms} (launch : Launch σ kms) (derive : KeyDerivation)
    (blob : Bytes) (keys : KeyManager) : Prop where
  decrypted : launch.client.decrypt blob launch.deadline = .ok keys.seed
  derived : KeyManager.fromSeed derive keys.seed = .ok keys
  own : launch.expectedEvmAddress = none → launch.client.generate launch.deadline = .ok blob
  pinned : ∀ address, launch.expectedEvmAddress = some address → keys.evmAddress = address

variable {persisted} {kms : Kms} {launch : Launch σ kms} {derive : KeyDerivation}
  {clock : σ → Nat}

theorem keeps_refl (world : σ) : Keeps persisted world world := fun _ => id

theorem stable_persisted (blob : Bytes) :
    Stable (fun _ => True) (Keeps persisted) (persisted blob) :=
  fun _ _ _ keeps => keeps blob

theorem meets_remainingUntil {α : Type} {f : Unit → Task σ EnclaveError α} {holds : σ → Prop}
    {post : α → (σ → Prop) → Prop} {deadline : Nat}
    (stable : Stable (fun _ => True) (Keeps persisted) holds)
    (rest : Guarded persisted (f ()) post holds) :
    Guarded persisted (remainingUntil clock deadline >>= f) post holds :=
  meets_check_bind keeps_refl stable fun _ => rest

theorem bootstrap_meets (good : SoundStore persisted launch.store) :
    Guarded persisted (do
        remainingUntil clock launch.deadline
        let blob ← launch.client.generate launch.deadline
        validateCiphertext blob
        remainingUntil clock launch.deadline
        let committed ← launch.store.create blob launch.deadline
        refuse (committed ≠ blob) (seedFailure
          "another initializer committed a different seed; pin its identity and restart")
        pure committed)
      (fun blob later => (∀ world, later world → persisted blob world) ∧
        launch.client.generate launch.deadline = .ok blob) fun _ => True := by
  refine meets_remainingUntil stable_true (meets_lift_bind.mpr fun blob generated => ?_)
  refine meets_lift_bind.mpr fun _ _ => meets_remainingUntil stable_true ?_
  refine (good.create blob launch.deadline).bind fun committed later later' weaker kept =>
    meets_lift_bind.mpr fun _ same => ?_
  rw [refuse_ok, not_not] at same
  subst same
  exact ⟨fun world there => kept world (weaker world there), generated⟩

theorem custodyCiphertext_meets (good : SoundStore persisted launch.store) :
    Guarded persisted (custodyCiphertext clock launch.store launch.client
        launch.expectedEvmAddress launch.deadline)
      (fun blob later => (∀ world, later world → persisted blob world) ∧
        (launch.expectedEvmAddress = none → launch.client.generate launch.deadline = .ok blob))
      fun _ => True := by
  refine (good.load launch.deadline).bind fun saved later later' weaker found => ?_
  cases saved with
  | some blob =>
      cases launch.expectedEvmAddress with
      | some address => exact ⟨fun world there => found blob rfl world (weaker world there), nofun⟩
      | none => trivial
  | none =>
      cases launch.expectedEvmAddress with
      | some address => trivial
      | none =>
          refine (bootstrap_meets good).weaken (fun _ _ => trivial)
            fun blob later later' weaker both => ?_
          exact ⟨fun world there => both.1 world (weaker world there), fun _ => both.2⟩

theorem restoreKeys_ok {seed : Seed} {expected : Option EvmAddress} {keys : KeyManager}
    (restored : restoreKeys derive seed expected = .ok keys) :
    KeyManager.fromSeed derive seed = .ok keys ∧
      ∀ address, expected = some address → keys.evmAddress = address := by
  simp only [restoreKeys, bind_ok, refuse_ok] at restored
  obtain ⟨_, derived, _, matching, ⟨⟩⟩ := restored
  refine ⟨derived, ?_⟩
  rintro address rfl
  by_contra other
  exact matching (decide_eq_true other)

theorem decrypt_meets {blob : Bytes} :
    Guarded persisted (do
        validateCiphertext blob
        remainingUntil clock launch.deadline
        let seed ← launch.client.decrypt blob launch.deadline
        remainingUntil clock launch.deadline
        pure seed)
      (fun seed later => (∀ world, later world → persisted blob world) ∧
        launch.client.decrypt blob launch.deadline = .ok seed) (persisted blob) := by
  refine meets_lift_bind.mpr fun _ _ => meets_remainingUntil (stable_persisted blob) ?_
  refine meets_lift_bind.mpr fun seed decrypted => meets_remainingUntil (stable_persisted blob) ?_
  exact ⟨fun _ => id, decrypted⟩

theorem loadKeys_meets (good : SoundStore persisted launch.store) :
    Guarded persisted (launch.loadKeys clock derive)
      (fun keys later => ∃ blob, (∀ world, later world → persisted blob world) ∧
        launch.Restored derive blob keys) fun _ => True := by
  refine meets_bind.mpr (meets_remainingUntil stable_true ?_)
  refine (custodyCiphertext_meets good).bind fun blob later later' weaker ⟨held, own⟩ => ?_
  refine decrypt_meets.weaken (fun world there => held world (weaker world there))
    fun seed later later' weaker both => ?_
  refine meets_ofExcept.mpr fun keys restored => ?_
  obtain ⟨derived, pinned⟩ := restoreKeys_ok restored
  obtain ⟨rfl, -⟩ := KeyManager.fromSeed_ok.mp derived
  exact ⟨blob, fun world there => both.1 world (weaker world there), both.2, derived, own, pinned⟩

end Rules

section Pools

variable {ι σ κ : Type} {kms : Kms} {clock : σ → Nat} {derive : KeyDerivation}
  {launches : ι → Launch σ kms} {outside : σ → κ → σ} {persisted : Bytes → σ → Prop}

/-- The launches, around the world that they share. -/
def launchPool (clock : σ → Nat) (derive : KeyDerivation) (launches : ι → Launch σ kms)
    (world : σ) : Pool ι σ EnclaveError KeyManager :=
  ⟨world, fun i => (launches i).loadKeys clock derive⟩

theorem launchPool_kept (clock : σ → Nat) (derive : KeyDerivation) (world : σ)
    (good : ∀ i, SoundStore persisted (launches i).store)
    (calls : ∀ world call, Keeps persisted world (outside world call)) :
    (launchPool clock derive launches world).Kept (fun _ => True) (fun _ => Keeps persisted) outside
      fun i keys later => ∃ blob, (∀ world, later world → persisted blob world) ∧
        (launches i).Restored derive blob keys := by
  refine ⟨trivial, fun i => ⟨fun _ => True, stable_true, trivial, ?_⟩⟩
  refine (loadKeys_meets (good i)).imp (fun _ _ => id) ?_ (fun _ => id) ?_
  · rintro before after (⟨_, _, keeps⟩ | ⟨call, rfl⟩)
    · exact keeps
    · exact calls before call
  · rintro keys later later' weaker ⟨blob, held, restored⟩
    exact ⟨blob, fun world there => held world (weaker world there), restored⟩

variable [DecidableEq ι]

theorem launch_restored {world : σ} {turns : List (ι ⊕ κ)} {i : ι} {keys : KeyManager}
    (good : ∀ i, SoundStore persisted (launches i).store)
    (calls : ∀ world call, Keeps persisted world (outside world call))
    (returned : ((launchPool clock derive launches world).run outside turns).task i = .done keys) :
    ∃ blob, persisted blob ((launchPool clock derive launches world).run outside turns).shared ∧
      (launches i).Restored derive blob keys := by
  obtain ⟨-, rest⟩ := (launchPool_kept clock derive world good calls).run (fun _ _ _ => trivial) turns
  obtain ⟨holds, -, here, meets⟩ := rest i
  rw [returned] at meets
  obtain ⟨blob, held, restored⟩ := meets
  exact ⟨blob, held _ here, restored⟩

theorem launches_keep {world : σ} {turns : List (ι ⊕ κ)}
    (good : ∀ i, SoundStore persisted (launches i).store)
    (calls : ∀ world call, Keeps persisted world (outside world call)) (more : List (ι ⊕ κ)) :
    Keeps persisted ((launchPool clock derive launches world).run outside turns).shared
      ((launchPool clock derive launches world).run outside (turns ++ more)).shared := by
  have kept := (launchPool_kept clock derive world good calls).run (fun _ _ _ => trivial) turns
  rw [Pool.run, Pool.run, List.foldl_append]
  exact kept.run_rel (fun _ _ _ => trivial) keeps_refl
    (fun first second blob there => second blob (first blob there)) id calls more

theorem any_soundStore (store : SeedStore σ) : SoundStore (fun _ _ => True) store := by
  constructor
  · intro deadline
    exact (meets_any (fun _ _ _ => id) (fun _ => trivial) _ _).weaken (fun _ => id)
      fun _ _ _ _ _ _ _ _ _ => trivial
  · intro blob deadline
    exact (meets_any (fun _ _ _ => id) (fun _ => trivial) _ _).weaken (fun _ => id)
      fun _ _ _ _ _ _ _ => trivial

end Pools

section CreateIfAbsent

variable {σ : Type} (object : σ → Option Bytes)

abbrev IsObject (blob : Bytes) (world : σ) : Prop := object world = some blob

/-- The object of the store stays. -/
abbrev Persists : σ → σ → Prop := Keeps (IsObject object)

/-- A store with one object, which is created only while it is absent. What a
    load or a create returns is the object. -/
abbrev CreateIfAbsent : SeedStore σ → Prop := SoundStore (IsObject object)

end CreateIfAbsent

namespace Parent

variable {α : Type} {base64 : Base64} {weather : Weather} {blob : Bytes}
  {post : α → (SeedWorld → Prop) → Prop} {holds : SeedWorld → Prop}

theorem meets_brokerLoad_bind {f : Option Bytes → Task SeedWorld EnclaveError α}
    (rest : ∀ saved, Guarded (IsObject SeedWorld.object) (f saved) post
      fun world => ∀ blob, saved = some blob → world.object = some blob) :
    Guarded (IsObject SeedWorld.object) (brokerLoad weather >>= f) post holds := by
  refine meets_read_bind keeps_refl fun found saved _ _ read => ?_
  simp only [bind_ok, refuse_ok] at read
  obtain ⟨_, _, _, _, ⟨⟩⟩ := read
  refine ⟨fun world => ∀ blob, found.object = some blob → world.object = some blob, ?_,
    fun _ => id, rest found.object⟩
  intro before after _ keeps there blob same
  exact keeps blob (there blob same)

theorem meets_putObject_bind {f : Unit → Task SeedWorld EnclaveError α}
    (rest : Guarded (IsObject SeedWorld.object) (f ()) post fun _ => True) :
    Guarded (IsObject SeedWorld.object) (putObject weather blob >>= f) post holds := by
  refine meets_bind.mpr (meets_atomically.mpr fun found _ _ =>
    ⟨trivial, ?_, fun _ => True, stable_true, trivial, fun _ _ => rest⟩)
  have stored : Persists SeedWorld.object found
      { found with object := found.object <|> some blob } := by
    intro blob' there
    simp only [IsObject] at there ⊢
    rw [there]
    rfl
  cases weather.put with
  | settled => exact stored
  | conflict => exact keeps_refl found
  | failed error committed =>
      cases committed with
      | true => exact stored
      | false => exact keeps_refl found

theorem decodeBlob_string {blob' : Bytes}
    (decoded : decodeBlob base64 (.string (base64.encode blob)) = .ok (some blob')) :
    blob' = blob := by
  simp only [decodeBlob, bind_ok, okOr_ok] at decoded
  obtain ⟨_, decoded, _, _, ⟨⟩⟩ := decoded
  exact base64.decode_encode decoded

theorem brokerStore_createIfAbsent (base64 : Base64) (weather : BlobRequest → Weather) :
    CreateIfAbsent SeedWorld.object (brokerStore base64 weather) := by
  constructor
  · intro deadline
    refine meets_bind.mpr (meets_lift_bind.mpr fun _ _ => meets_bind.mpr ?_)
    refine meets_brokerLoad_bind fun saved => ?_
    refine meets_lift_bind.mpr fun _ _ => meets_ofExcept.mpr ?_
    rintro _ decoded blob rfl world there
    cases saved with
    | none => cases decoded
    | some blob' =>
        rw [decodeBlob_string decoded]
        exact there blob' rfl
  · intro blob deadline
    refine meets_lift_bind.mpr fun _ _ => meets_bind.mpr (meets_lift_bind.mpr fun _ _ => ?_)
    refine meets_bind.mpr (meets_lift_bind.mpr fun blob' _ => meets_bind.mpr ?_)
    refine meets_putObject_bind (meets_brokerLoad_bind fun saved => ?_)
    refine meets_ofExcept.mpr fun committed there => ?_
    obtain rfl := okOr_ok.mp there
    refine meets_lift_bind.mpr fun _ _ => meets_lift_bind.mpr fun returned decoded => ?_
    refine meets_ofExcept.mpr fun blob'' same world there => ?_
    obtain rfl := okOr_ok.mp same
    rw [decodeBlob_string decoded]
    exact there committed rfl

end Parent

section Agreement

variable {σ : Type} (object : σ → Option Bytes)

/-- Launches on a store that creates only what is absent, in any interleaving,
    return the keys of the one object, which never changes. On any store at all
    a launch without a pin returns only keys of a blob it has generated, and a
    launch with a pin only the keys of the pinned address. -/
theorem launches_agree {ι κ : Type} [DecidableEq ι] (kms : Kms) (clock : σ → Nat)
    (derive : KeyDerivation) (launches : ι → Launch σ kms) (world : σ) (outside : σ → κ → σ) :
    ((∀ i, CreateIfAbsent object (launches i).store) →
      (∀ world call, Persists object world (outside world call)) →
      ∀ turns more, let pool := (launchPool clock derive launches world).run outside
        (∀ i keys, (pool turns).task i = .done keys →
          (∃ blob, object (pool turns).shared = some blob ∧ kms blob = some keys.seed) ∧
          ∀ address, (launches i).expectedEvmAddress = some address → keys.evmAddress = address) ∧
        (∀ i j keys keys', (pool turns).task i = .done keys → (pool turns).task j = .done keys' →
          keys = keys') ∧
        Persists object (pool turns).shared (pool (turns ++ more)).shared) ∧
    ∀ turns i keys,
      ((launchPool clock derive launches world).run outside turns).task i = .done keys →
      ((launches i).expectedEvmAddress = none →
        ∃ blob, (launches i).client.generate (launches i).deadline = .ok blob ∧
          kms blob = some keys.seed) ∧
      ∀ address, (launches i).expectedEvmAddress = some address → keys.evmAddress = address := by
  constructor
  · intro good calls turns more
    refine ⟨fun i keys returned => ?_, fun i j keys keys' returned returned' => ?_,
      launches_keep good calls more⟩
    · obtain ⟨blob, there, restored⟩ := launch_restored good calls returned
      exact ⟨⟨blob, there, (launches i).client.decrypt_ok restored.decrypted⟩, restored.pinned⟩
    · obtain ⟨blob, there, restored⟩ := launch_restored good calls returned
      obtain ⟨blob', there', restored'⟩ := launch_restored good calls returned'
      cases there.symm.trans there'
      have seed := (launches i).client.decrypt_ok restored.decrypted
      have seed' := (launches j).client.decrypt_ok restored'.decrypted
      have same : keys.seed = keys'.seed := Option.some.inj (seed.symm.trans seed')
      have derived := restored.derived
      rw [same] at derived
      exact Except.ok.inj (derived.symm.trans restored'.derived)
  · intro turns i keys returned
    have sound : ∀ i, SoundStore (fun _ _ => True) (launches i).store :=
      fun i => any_soundStore (launches i).store
    obtain ⟨blob, -, restored⟩ := launch_restored sound (fun _ _ _ => id) returned
    exact ⟨fun unpinned => ⟨blob, restored.own unpinned,
      (launches i).client.decrypt_ok restored.decrypted⟩, restored.pinned⟩

end Agreement

section Sample

def sampleKms : Kms := fun ciphertext =>
  if ciphertext = [1, 2] then some (.fill 64 1)
  else if ciphertext = [3, 4] then some (.fill 64 2)
  else none

def sampleDerive : KeyDerivation := fun seed =>
  if seed = .fill 64 1 then .ok (.ofNatBe 20 0xb0acc6da31231890c315d8288db5224ca441cc8f)
  else if seed = .fill 64 2 then
    .ok (.ofNatBe 20 0xd6cb6a13f3476408ab5c01f514cf1abae730bd1b)
  else .error (.internal "not derived")

def sampleBase64 : Base64 where
  encode blob := if blob = [1, 2] then "AQI=" else if blob = [3, 4] then "AwQ=" else ""
  decode text := if text = "AQI=" then some [1, 2] else if text = "AwQ=" then some [3, 4] else none
  decode_encode := by
    intro blob blob' decoded
    split at decoded
    · rename_i first
      subst first
      cases decoded
      rfl
    · split at decoded
      · rename_i second
        subst second
        cases decoded
        rfl
      · cases decoded

def sampleClient (ciphertext : Bytes) : SeedKms sampleKms where
  generate _ := .ok ciphertext
  decrypt ciphertext _ := okOr (.custody "KMS" .keyOrCiphertext) (sampleKms ciphertext)
  decrypt_ok := okOr_ok.mp

def sampleLaunches : Fin 3 → Launch Parent.SeedWorld sampleKms
  | 0 => ⟨Parent.brokerStore sampleBase64 fun _ => .clear, sampleClient [1, 2], none, 25⟩
  | 1 => ⟨Parent.brokerStore sampleBase64 fun _ => .clear, sampleClient [3, 4], none, 25⟩
  | 2 => ⟨Parent.brokerStore sampleBase64 fun _ => .clear, sampleClient [],
      some (.ofNatBe 20 0xb0acc6da31231890c315d8288db5224ca441cc8f), 25⟩

theorem sampleLaunches_createIfAbsent (i : Fin 3) :
    CreateIfAbsent Parent.SeedWorld.object (sampleLaunches i).store :=
  match i with
  | 0 => Parent.brokerStore_createIfAbsent _ _
  | 1 => Parent.brokerStore_createIfAbsent _ _
  | 2 => Parent.brokerStore_createIfAbsent _ _

def sampleWait (world : Parent.SeedWorld) (elapsed : Nat) : Parent.SeedWorld :=
  { world with now := world.now + elapsed }

def sampleTurns : List (Fin 3 ⊕ Nat) :=
  [.inl 0, .inl 0, .inl 1, .inl 1] ++ List.replicate 6 (.inl 0) ++ List.replicate 6 (.inl 1) ++
    [.inr 5] ++ List.replicate 4 (.inl 2)

def samplePool : Pool (Fin 3) Parent.SeedWorld EnclaveError KeyManager :=
  (launchPool Parent.SeedWorld.now sampleDerive sampleLaunches ⟨0, none⟩).run sampleWait sampleTurns

def sampleKeys : KeyManager :=
  ⟨.fill 64 1, .ofNatBe 20 0xb0acc6da31231890c315d8288db5224ca441cc8f⟩

theorem launches_agree_race :
    samplePool.task 0 = .done sampleKeys ∧ samplePool.task 2 = .done sampleKeys ∧
    (∃ blob, samplePool.shared.object = some blob ∧ sampleKms blob = some sampleKeys.seed) ∧
    ∃ blob, (sampleLaunches 0).client.generate 25 = .ok blob ∧
      sampleKms blob = some sampleKeys.seed := by
  have first : samplePool.task 0 = .done sampleKeys := rfl
  have pinned : samplePool.task 2 = .done sampleKeys := rfl
  obtain ⟨agree, own⟩ := launches_agree Parent.SeedWorld.object sampleKms Parent.SeedWorld.now
    sampleDerive sampleLaunches ⟨0, none⟩ sampleWait
  obtain ⟨each, -, -⟩ := agree sampleLaunches_createIfAbsent (fun _ _ _ => id) sampleTurns []
  exact ⟨first, pinned, (each 0 sampleKeys first).1, (own sampleTurns 0 sampleKeys first).1 rfl⟩

end Sample

end EnclaveSigner
