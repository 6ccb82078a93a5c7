import EnclaveSigner.Spv.Validation

/-! # The in-memory header chain

The chain starts at a checkpoint and keeps every validated header above it.
`submitHeaders` takes a batch that extends the tip or rewrites a bounded part
of it. The batch is staged first: a header is checked against the staged
headers before it, then the committed chain, then the checkpoint. Only a batch
that passes as a whole changes the chain.

Heights are 32-bit and wrap, as they do in a release build.
-/

namespace EnclaveSigner.Spv

open Lib Bitcoin

def MAX_REORG_DEPTH : BlockHeight := 100

def MAX_STORED_HEADERS : Nat := 1000000

def MAX_HEADERS_PER_SUBMIT : Nat := 10000

/-- The answer to an accepted batch. -/
structure SubmitOutcome where
  lastBlockHeight : BlockHeight
  lastBlockHash : BlockHash
  headersAccepted : UInt32
  reorgDepth : BlockHeight
  deriving DecidableEq

/-- A header with its hash. -/
abbrev Staged := Header × BlockHash

/-- `headers[i]` is the header at height `baseHeight + 1 + i`, and `hashes` runs
    parallel to it. The base fields are the checkpoint's. -/
structure HeaderChain where
  network : Network
  checkpoint : Checkpoint
  baseHeight : BlockHeight
  baseHash : BlockHash
  baseBits : UInt32
  baseTime : UInt32
  headers : List Header
  hashes : List BlockHash
  maxStoredHeaders : Nat
  deriving DecidableEq

def sumWork (btc : Crate) : List Header → Option U256
  | [] => none
  | first :: rest => some (rest.foldl (fun acc header => acc + header.work btc) (first.work btc))

namespace HeaderChain

/-- The chain at boot: the checkpoint alone. -/
def new (network : Network) (checkpoint : Checkpoint) : HeaderChain where
  network
  checkpoint
  baseHeight := checkpoint.height
  baseHash := checkpoint.hash
  baseBits := checkpoint.bits
  baseTime := checkpoint.time
  headers := []
  hashes := []
  maxStoredHeaders := MAX_STORED_HEADERS

section Lookups

variable (chain : HeaderChain)

def tipHeight : BlockHeight := chain.baseHeight + UInt32.ofNat chain.headers.length

def tipHash : BlockHash := chain.hashes.getLast?.getD chain.checkpoint.hash

def tipTime : UInt32 := (chain.headers.getLast?.map (·.time)).getD chain.checkpoint.time

/-- The stored header at a height. None at the checkpoint and below. -/
def headerAt (height : BlockHeight) : Option Header :=
  if height ≤ chain.baseHeight then none
  else chain.headers[(height - chain.baseHeight - 1).toNat]?

def hashAt (height : BlockHeight) : Option BlockHash :=
  if height = chain.baseHeight then some chain.baseHash
  else if height < chain.baseHeight then none
  else chain.hashes[(height - chain.baseHeight - 1).toNat]?

/-- Headers from `height` to the tip, counted up to `cap`. -/
def confirmations (height : BlockHeight) (cap : UInt32) : UInt32 :=
  if (chain.headerAt height).isNone then 0
  else min (chain.tipHeight - height + 1) cap

/-- `(time, bits)` of the block at `height`. The staged batch comes first: on a
    reorg it replaces the committed range. -/
def blockAt (height batchStartHeight : BlockHeight) (staged : List Staged) :
    Except SpvError (UInt32 × UInt32) :=
  let stagedHeader :=
    ((checkedSub32 height batchStartHeight).bind fun i => staged[i.toNat]?).map Prod.fst
  match stagedHeader.or (chain.headerAt height) with
  | some header => .ok (header.time, header.bits)
  | none =>
      if height = chain.baseHeight then .ok (chain.baseTime, chain.baseBits)
      else .error (.headerNotFound height)

/-- The chain data that the `nBits` rule of the header at `height` reads. -/
def bitsInput (btc : Crate) (height : BlockHeight) (headerTime prevBits prevTime : UInt32)
    (batchStartHeight : BlockHeight) (staged : List Staged) : Except SpvError BitsInput :=
  let input : BitsInput := { height, headerTime, prevBits, prevTime }
  if isRetargetHeight height then do
    let first ← okOr (.headerNotFound 0) (checkedSub32 height RETARGET_INTERVAL)
    let (epochFirstTime, epochFirstBits) ← chain.blockAt first batchStartHeight staged
    pure { input with epochFirstTime, epochFirstBits }
  else if chain.network.allowsMinDifficulty btc then do
    let periodStart := height - height % RETARGET_INTERVAL
    let (_, periodBits) ← chain.blockAt periodStart batchStartHeight staged
    pure { input with periodBits }
  else pure input

/-- The heights from `first` on, below `last`. -/
def heightsBetween (first last : BlockHeight) : List BlockHeight :=
  (List.range (last.toNat - first.toNat)).map fun i => first + UInt32.ofNat i

/-- The median time past below `height`. `none` where the window reaches below
    the checkpoint, whose predecessors the chain does not know. -/
def medianTimePastBelow (height batchStartHeight : BlockHeight) (staged : List Staged) :
    Except SpvError (Option UInt32) :=
  let first := satSub32 height (UInt32.ofNat MEDIAN_TIME_SPAN)
  if first < chain.baseHeight then pure none
  else do
    let times ← (heightsBetween first height).mapM fun h =>
      (chain.blockAt h batchStartHeight staged).map Prod.fst
    pure (some (medianTimePast times))

/-- Hash, bits and time of the block at `predHeight`, the predecessor of a
    batch. -/
def predecessor (predHeight : BlockHeight) : Except SpvError (BlockHash × UInt32 × UInt32) :=
  if predHeight = chain.baseHeight then
    pure (chain.baseHash, chain.baseBits, chain.baseTime)
  else do
    let header ← okOr (.headerNotFound predHeight) (chain.headerAt predHeight)
    let hash ← okOr (.headerNotFound predHeight) (chain.hashAt predHeight)
    pure (hash, header.bits, header.time)

/-- Where a batch of `count` headers may go: the number of headers it displaces,
    or why it is refused before any header is read. -/
def placeBatch (startHeight : BlockHeight) (count : Nat) : Except SpvError BlockHeight := do
  let tip := chain.tipHeight
  refuse (startHeight ≤ chain.checkpoint.height)
    (.belowCheckpoint startHeight chain.checkpoint.height)
  refuse (startHeight > tip + 1) (.nonContiguous startHeight tip)
  let reorgDepth := satSub32 (tip + 1) startHeight
  refuse (reorgDepth > MAX_REORG_DEPTH) (.reorgTooDeep reorgDepth MAX_REORG_DEPTH)
  let projectedLen := (startHeight - 1 - chain.baseHeight).toNat + count
  refuse (projectedLen > chain.maxStoredHeaders)
    (.chainTooLong projectedLen chain.maxStoredHeaders)
  pure reorgDepth

end Lookups

section Submit

variable (btc : Crate)

/-- The `nBits` that a header must have. None where the network does not check. -/
def requiredBits (chain : HeaderChain) (height : BlockHeight)
    (headerTime prevBits prevTime : UInt32) (startHeight : BlockHeight)
    (staged : List Staged) : Except SpvError (Option UInt32) :=
  if chain.network.enforcesPow then do
    let input ← chain.bitsInput btc height headerTime prevBits prevTime startHeight staged
    pure (expectedBits btc input chain.network)
  else pure none

/-- The checks of one header of the batch, at `height` above the block
    `(prevHash, prevBits, prevTime)`. -/
def checkHeader (chain : HeaderChain) (startHeight : BlockHeight) (nowUnix : UInt64)
    (staged : List Staged) (height : BlockHeight) (prev : BlockHash × UInt32 × UInt32)
    (header : Header) : Except SpvError Unit := do
  let (prevHash, prevBits, prevTime) := prev
  let expectedBitsValue ←
    chain.requiredBits btc height header.time prevBits prevTime startHeight staged
  let medianTimePast ← chain.medianTimePastBelow height startHeight staged
  validateHeaderFull btc header height { hash := prevHash, time := prevTime }
    medianTimePast expectedBitsValue chain.network nowUnix

/-- Hash, bits and time of the last staged header, or of the batch's
    predecessor. -/
def prevOf (pred : BlockHash × UInt32 × UInt32) (staged : List Staged) :
    BlockHash × UInt32 × UInt32 :=
  match staged.getLast? with
  | some (prevHeader, prevHash) => (prevHash, prevHeader.bits, prevHeader.time)
  | none => pred

/-- The loop over the batch: `i` counts the headers, `staged` holds those that
    passed. -/
def stageHeaders (chain : HeaderChain) (startHeight : BlockHeight)
    (pred : BlockHash × UInt32 × UInt32) (nowUnix : UInt64) :
    Nat → List Staged → List Bytes → Except SpvError (List Staged)
  | _, staged, [] => pure staged
  | i, staged, raw :: rest => do
      let header ← okOr (.headerParse i (btc.decodeError raw)) (Header.deserialize raw)
      let height := startHeight + UInt32.ofNat i
      chain.checkHeader btc startHeight nowUnix staged height (prevOf pred staged) header
      stageHeaders chain startHeight pred nowUnix (i + 1)
        (staged ++ [(header, header.blockHash btc)]) rest

/-- A reorg needs strictly more work than the headers it displaces. -/
def checkWork (chain : HeaderChain) (truncateIdx : Nat) (staged : List Staged) :
    Except SpvError Unit :=
  -- Both ranges are non-empty when a reorg gets here, so neither default is read.
  let existingWork := (sumWork btc (chain.headers.drop truncateIdx)).getD 0
  let newWork := (sumWork btc (staged.map Prod.fst)).getD 0
  refuse (newWork ≤ existingWork) .weakerChain

/-- The chain with its first `idx` headers. -/
def truncate (idx : Nat) (chain : HeaderChain) : HeaderChain :=
  { chain with headers := chain.headers.take idx, hashes := chain.hashes.take idx }

def push (chain : HeaderChain) (entry : Staged) : HeaderChain :=
  { chain with
    headers := chain.headers ++ [entry.1]
    hashes := chain.hashes ++ [entry.2] }

/-- Make room for a batch that displaces `reorgDepth` headers. -/
def displace (reorgDepth : BlockHeight) (truncateIdx : Nat) (staged : List Staged) :
    EStateM SpvError HeaderChain Unit := do
  let chain ← get
  if reorgDepth > 0 then
    chain.checkWork btc truncateIdx staged
    modify (truncate truncateIdx)

/-- `SubmitHeaders`: check a batch as a whole, then commit it. -/
def submitHeaders (startHeight : BlockHeight) (rawHeaders : List Bytes) (nowUnix : UInt64) :
    EStateM SpvError HeaderChain SubmitOutcome := do
  let chain ← get
  refuse (rawHeaders.length > MAX_HEADERS_PER_SUBMIT)
    (SpvError.batchTooLarge rawHeaders.length MAX_HEADERS_PER_SUBMIT)
  if rawHeaders.isEmpty then
    return {
      lastBlockHeight := chain.tipHeight
      lastBlockHash := chain.tipHash
      headersAccepted := 0
      reorgDepth := 0 }
  else
    let reorgDepth ← chain.placeBatch startHeight rawHeaders.length
    let predHeight := startHeight - 1
    let pred ← chain.predecessor predHeight
    let staged ← chain.stageHeaders btc startHeight pred nowUnix 0 [] rawHeaders
    displace btc reorgDepth (predHeight - chain.baseHeight).toNat staged
    forM staged fun entry => modify (push · entry)
    let committed ← get
    return {
      lastBlockHeight := committed.tipHeight
      lastBlockHash := committed.tipHash
      headersAccepted := UInt32.ofNat staged.length
      reorgDepth }

end Submit

end HeaderChain

end EnclaveSigner.Spv
