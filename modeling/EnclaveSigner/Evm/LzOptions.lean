import EnclaveSigner.Evm.Abi

/-! # LayerZero options

The `extraOptions` of an `lzFundsOut` release are empty, or one executor option
that sets a bounded gas for `lzReceive` and nothing else.
-/

namespace EnclaveSigner.Evm

open Lib

def MAX_LZ_RECEIVE_GAS : Nat := 1000000

def OPTIONS_TYPE_3 : Nat := 3

def EXECUTOR_WORKER_ID : Nat := 1

def OPTION_TYPE_LZRECEIVE : Nat := 1

def LZRECEIVE_GAS_LEN : Nat := 16

def rejectOptions (reason : String) : EnclaveError :=
  .crossCheck s!"lzFundsOut extraOptions: {reason}"

def readBe (n : Nat) (bytes : Bytes) : Option (Nat × Bytes) :=
  if bytes.length < n then none else some (ofBe (bytes.take n), bytes.drop n)

def validateExtraOptions (options : Bytes) : Result Unit :=
  if options.isEmpty then .ok ()
  else do
    let (optionsType, rest) ← okOr
      (rejectOptions s!"{options.length} bytes is too short for the options type")
      (readBe 2 options)
    refuse (optionsType ≠ OPTIONS_TYPE_3)
      (rejectOptions s!"options type {optionsType} is not type 3")
    let (workerId, rest) ← okOr (rejectOptions "no option after the type") (readBe 1 rest)
    refuse (workerId ≠ EXECUTOR_WORKER_ID)
      (rejectOptions s!"worker id {workerId} is not the executor")
    let (size, rest) ← okOr (rejectOptions "option size is truncated") (readBe 2 rest)
    refuse (size ≠ rest.length)
      (rejectOptions (s!"option size {size} != {rest.length} remaining bytes " ++
        "(only one option is allowed)"))
    let (optionType, body) ← okOr (rejectOptions "empty option") (readBe 1 rest)
    refuse (optionType ≠ OPTION_TYPE_LZRECEIVE)
      (rejectOptions (s!"executor option type {optionType} is not lzReceive " ++
        "(native drop, compose and ordered execution are refused)"))
    refuse (body.length ≠ LZRECEIVE_GAS_LEN)
      (rejectOptions (s!"lzReceive option body is {body.length} bytes, expected " ++
        s!"{LZRECEIVE_GAS_LEN} (gas only, no value)"))
    let gas := ofBe body
    refuse (gas > MAX_LZ_RECEIVE_GAS)
      (rejectOptions s!"lzReceive gas {gas} exceeds {MAX_LZ_RECEIVE_GAS}")

end EnclaveSigner.Evm
