import MatcherHost.Running.Host

/-! Rules compiled into module files. A module is usable when it says which interface it was
compiled against and that is this host's; a rule's export is named by the rule and a suffix. -/
namespace MatcherHost

structure Library where
  /-- The interface it was compiled against, if it says. -/
  interface : Option Interface
  exports : List (String × EntryPoint)

structure Loaded where
  path : String
  entrySuffix : String
  library : Library

namespace Library

def descriptorSymbol : String := "peg_matcher_abi"

/-- Names reach the system's loader as bytes up to a zero byte: one at the very end is allowed
and dropped, and a name with one before that is refused. -/
def terminated? (name : String) : Option String :=
  let chars := name.toList
  let cut := if chars.getLast? = some '\x00' then chars.dropLast else chars
  if '\x00' ∈ cut then none else some (String.ofList cut)

def find? (library : Library) (symbol : String) : Option EntryPoint :=
  (terminated? symbol).bind fun name => Entries.get? name library.exports

/-- Puts a module to use. `files` is what the system's loader finds at a path. -/
def load (files : String → Option Library) (path : String) (config : Config) :
    Except HostError Loaded :=
  match files path with
  | none => .error (.unloadable path "the dynamic loader rejected the module" true)
  | some library =>
    match library.interface with
    | none => .error (.unloadable path s!"module does not export `{descriptorSymbol}`" true)
    | some interface =>
      if interface.compatible then .ok ⟨path, config.entrySuffix, library⟩
      else .error (.mismatch path interface .current)

end Library

namespace Loaded

def symbol (loaded : Loaded) (rule : String) : String := rule ++ loaded.entrySuffix

def resolve (loaded : Loaded) (rule : String) : Except HostError EntryPoint :=
  match loaded.library.find? (loaded.symbol rule) with
  | some entry => .ok entry
  | none => .error (.missing rule (loaded.symbol rule))

def event (loaded : Loaded) : Event := .loaded loaded.path Interface.current.version

end Loaded

def Library.parse (files : String → Option Library) (path rule : String) (input : Bytes) : Parse :=
  match Library.load files path {} with
  | .error error => ⟨[], .error error⟩
  | .ok loaded =>
    let parse := Host.parse ⟨loaded.resolve, {}, .identity⟩ rule input
    { parse with events := loaded.event :: parse.events }

end MatcherHost
