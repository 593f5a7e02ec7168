import TokenTransfer.ChannelEnd
import TokenTransfer.Sha256
import TokenTransfer.Utf8

namespace TokenTransfer

structure Trace where
  hops : List ChannelEnd
  base : String
deriving DecidableEq

namespace Trace

def segments : List Char → List (List Char)
  | [] => [[]]
  | c :: rest =>
    if c = '/' then [] :: segments rest
    else match segments rest with
      | [] => [[c]]
      | first :: others => (c :: first) :: others

def join : List (List Char) → List Char
  | [] => []
  | [last] => last
  | first :: second :: others => first ++ '/' :: join (second :: others)

-- Hops are taken in pairs as long as something is left for the base, so a base
-- keeps at most one slash.
def ofSegments : List (List Char) → Trace
  | port :: channel :: next :: others =>
    let inner := ofSegments (next :: others)
    {inner with hops := ⟨String.ofList port,String.ofList channel⟩ :: inner.hops}
  | few => ⟨[],String.ofList (join few)⟩

def read (denom : String) : Trace := ofSegments (segments denom.toList)

def text (trace : Trace) : String := trace.hops.foldr (fun place rest => place.hop ++ rest) trace.base

def path (trace : Trace) : String :=
  String.ofList (join (trace.hops.map fun place => place.path.toList))

def isNative (trace : Trace) : Bool := trace.hops.isEmpty

def startsWith (trace : Trace) (place : ChannelEnd) : Bool := trace.hops.head? == some place

def add (trace : Trace) (place : ChannelEnd) : Trace := {trace with hops := place :: trace.hops}

-- Whether the newest hop was `place`, and the trace without it if so.
def remove (trace : Trace) (place : ChannelEnd) : Bool × Trace :=
  if trace.startsWith place then (true,{trace with hops := trace.hops.tail}) else (false,trace)

def hashedName (trace : Trace) : String :=
  if trace.isNative then trace.base
  else "ibc/" ++ String.ofList ((Hex.write (Sha256.hash (Utf8.write trace.text))).map Char.toUpper)

end Trace
end TokenTransfer
