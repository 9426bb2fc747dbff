import Librcom.Rpc.Server

/-! The object that the tutorial makes available to remote calls. -/

namespace Rcom

open Json (ascii Value)

/-- What the adaptor makes of the parameters of a call to scare someone. -/
def executeGentlyScareSomeone (params : Value) : Except Bytes Unit := do
  let _ ← params.stringAt (ascii "person-id")
  return ()

/-- The adaptor of a monster with an energy level. -/
def monsterAdaptor (energyLevel : ℚ) : IRPCHandler where
  executeJson _id method params error := do
    let error := { error with code := 0 }
    if method = ascii "jump-around" then return (.null, error)
    else if method = ascii "gently-scare-someone" then do
      -- The look-up of the member throws, and nothing in the adaptor catches it.
      executeGentlyScareSomeone params
      return (.null, error)
    else if method = ascii "get-energy-level" then
      return (Value.null.set (ascii "energy-level") (.float energyLevel), error)
    else
      return (.null, { code := RPCError.kMethodNotFound, message := ascii "Unknown method" })
  -- Every binary call fails, with a code and a text.
  executeBinary _id _method _params _error :=
    return ([], { code := 1, message := ascii "Monsters don't take binary messages." })

end Rcom
