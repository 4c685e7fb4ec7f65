/-!
The options of the command line.
-/

set_option autoImplicit false

namespace LiveChat.Terminal

structure Options where
  /-- Where the settings are kept. -/
  dataDir : Option String
  /-- The server that goes before the one in the settings. -/
  origin : Option String
  /-- Starts with an empty conversation instead of loading the history. -/
  noHistory : Bool
  /-- Asks for more detail in the log. -/
  debug : Bool
  deriving DecidableEq, Repr

namespace Options

def standard : Options := { dataDir := none, origin := none, noHistory := false, debug := false }

def parseFrom (options : Options) : List String → Except String Options
  | [] => .ok options
  | "--data-dir" :: dataDir :: rest => parseFrom { options with dataDir } rest
  | "--origin" :: origin :: rest => parseFrom { options with origin } rest
  | "--no-history" :: rest => parseFrom { options with noHistory := true } rest
  | "--debug" :: rest => parseFrom { options with debug := true } rest
  | "-d" :: rest => parseFrom { options with debug := true } rest
  | other :: _ => .error ("unexpected argument '" ++ other ++ "' found")

def parse (arguments : List String) : Except String Options := parseFrom standard arguments

end Options

end LiveChat.Terminal
