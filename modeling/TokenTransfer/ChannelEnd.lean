namespace TokenTransfer

-- One end of a channel. Identifiers are free text, empty and slashed ones included.
structure ChannelEnd where
  port : String
  channel : String
deriving DecidableEq

namespace ChannelEnd

def path (place : ChannelEnd) : String := place.port ++ "/" ++ place.channel

def hop (place : ChannelEnd) : String := place.path ++ "/"

end ChannelEnd
end TokenTransfer
