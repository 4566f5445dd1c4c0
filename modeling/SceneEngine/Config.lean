import SceneEngine.LiveLink.Settings
import SceneEngine.Toml.Parser

/-!
# Engine configuration

What an engine can be told before it starts.  Every section and every setting may be left out;
settings that are unknown are ignored, but a known one of the wrong type makes the whole document
invalid, and so does a number without a value wherever it has a name.

A section is usually a table, whose settings have names.  It may also be a list, whose settings come
in a fixed order; so every setting is looked up by its name and its position together (`Section`),
and the section decides which of them counts.

That there is no configuration at all is no error: everything is then at its default (`load`).  A
document that is there but cannot be used is one, and which of the two errors it is depends on
whether it could be read.
-/

namespace SceneEngine

/-- The section `log`: what the host keeps of the log. -/
structure LogConfig where
  /-- Which entries are kept. -/
  filter : String := "info"
  deriving DecidableEq

/-- The section `store`: how the store is set up. -/
structure StoreConfig where
  /-- How many earlier states are kept. -/
  historyDepth : Nat := 0
  deriving DecidableEq

/-- The section `shader`: what is made of a node tree. -/
structure ShaderConfig where
  /-- Whether every material gets a program that only writes depth. -/
  depthVariant : Bool := true
  /-- Whether generated sources go to the log. -/
  logSources : Bool := false
  deriving DecidableEq

/-- The configuration of an engine, a part for every section. -/
structure EngineConfig where
  log : LogConfig := {}
  store : StoreConfig := {}
  shader : ShaderConfig := {}
  link : LiveLink.Settings := {}
  deriving DecidableEq

/-- Why there is no configuration. -/
inductive ConfigError where
  /-- The document is there but cannot be read. -/
  | unreadable
  /-- The document is no valid configuration. -/
  | invalid
  deriving DecidableEq

/-- What is found where a configuration is looked for. -/
inductive ConfigSource where
  | missing
  | unreadable
  | document (text : String)

namespace EngineConfig

/-- The value of a setting: its name, and its position when the section is a list. -/
abbrev Section := String → Nat → Option Toml

/-- A section of the configuration.  A list gives the settings by position, and what follows the
last setting is not looked at; a date is a section without settings.  Anything else cannot be a
section. -/
def section? (root : Toml.Table) (name : String) : Option Section :=
  match root.get? name with
  | none => some fun _ _ => none
  | some (.table origin fields) =>
    if Toml.fieldsAreFaultless fields then some fun key _ => Toml.Table.get? ⟨origin, fields⟩ key
    else none
  | some (.list items) => some fun _ position => items[position]?
  | some (.tables items) => some fun _ position => items[position]?
  | some (.moment _) => some fun _ _ => none
  | some _ => none

/-- A setting that is a text; the default if it is left out, nothing if it is of another type. -/
def text? (value? : Option Toml) (default : String) : Option String :=
  match value? with
  | none => some default
  | some (.text s) => some s
  | some _ => none

/-- A setting that is a truth value. -/
def flag? (value? : Option Toml) (default : Bool) : Option Bool :=
  match value? with
  | none => some default
  | some (.bool b) => some b
  | some _ => none

/-- Counts have 64 bits. -/
def countLimit : Nat := 0x10000000000000000

/-- A setting that is a count, and within the limit. -/
def count? (value? : Option Toml) (default : Nat) : Option Nat :=
  match value? with
  | none => some default
  | some (.integer n) => if 0 ≤ n ∧ n < countLimit then some n.toNat else none
  | some _ => none

/-- The names of the sections. -/
def sectionNames : List String := ["log", "store", "shader", "link"]

/-- Whether everything outside of the sections is sound, although it is ignored. -/
def ignoresSafely (root : Toml.Table) : Bool :=
  root.fields.all fun (name, value) => sectionNames.contains name || value.isFaultless

/-- Reads the settings of a document.  The numbers are the positions of the settings in a section
that is a list. -/
def ofTable? (root : Toml.Table) : Option EngineConfig := do
  guard (ignoresSafely root)
  let defaults : EngineConfig := {}
  let log ← section? root "log"
  let store ← section? root "store"
  let shader ← section? root "shader"
  let link ← section? root "link"
  return {
    log := { filter := ← text? (log "filter" 0) defaults.log.filter }
    store := { historyDepth := ← count? (store "history_depth" 0) defaults.store.historyDepth }
    shader :=
      { depthVariant := ← flag? (shader "depth_variant" 0) defaults.shader.depthVariant
        logSources := ← flag? (shader "log_sources" 1) defaults.shader.logSources }
    link :=
      { enabled := ← flag? (link "enabled" 0) defaults.link.enabled
        url := ← text? (link "url" 1) defaults.link.url
        reconnectDelay := ← count? (link "reconnect_delay_ms" 2) defaults.link.reconnectDelay
        pingInterval := ← count? (link "ping_interval_ms" 3) defaults.link.pingInterval } }

/-- Reads a configuration.  What is wrong with an invalid one is not told. -/
def parse (text : String) : Except ConfigError EngineConfig :=
  match (Toml.parse? text).bind ofTable? with
  | some config => .ok config
  | none => .error .invalid

/-- The configuration of a source; without a document everything is at its default. -/
def load : ConfigSource → Except ConfigError EngineConfig
  | .missing => .ok {}
  | .unreadable => .error .unreadable
  | .document text => parse text

end EngineConfig

end SceneEngine
