import OfflineManifest.Diagnostic.Render
import OfflineManifest.Manifest.Run
import OfflineManifest.Text.Quoted

/-! # The log

The log has a line for each event: its level, the part of the program it comes from, a message, and
named values. Colour is put around the level, the part and the names.
-/

namespace OfflineManifest

/-- How important an event is. -/
inductive LogLevel where
  | debug
  | info
  deriving DecidableEq, Repr

/-- The name of a level, five characters wide. -/
def LogLevel.name : LogLevel → String
  | debug => "DEBUG"
  | info => " INFO"

/-- The style of a level: blue or green. -/
def LogLevel.style : LogLevel → String
  | debug => Style.start "34"
  | info => Style.start "32"

/-- A line of the log. -/
structure LogLine where
  level : LogLevel
  /-- the part of the program that it comes from -/
  source : String
  message : String
  /-- values with their names -/
  values : List (String × String)
  deriving DecidableEq, Repr

/-- The line for an event. -/
def Event.logLine : Event → LogLine
  | listed directory count =>
    ⟨.debug, "precache_fs::local", "listed files",
      [("dir", Text.quoted directory), ("count", toString count)]⟩
  | assetGroup name files mode =>
    ⟨.debug, "precache_generator::generator", "resolved asset group",
      [("group", name), ("files", toString files), ("install_mode", Text.quoted mode.name)]⟩
  | dataGroup name maxAge =>
    ⟨.debug, "precache_generator::data", "resolved data group",
      [("group", name), ("max_age", toString maxAge)]⟩
  | generated assetGroups dataGroups files =>
    ⟨.debug, "precache_generator::generator", "generated manifest",
      [("asset_groups", toString assetGroups), ("data_groups", toString dataGroups),
        ("files", toString files)]⟩
  | wrote path bytes =>
    ⟨.debug, "precache_fs::local", "wrote file",
      [("file", Text.quoted path), ("bytes", toString bytes)]⟩
  | published path bytes =>
    ⟨.info, "precache_generator::generator", "wrote manifest",
      [("path", Text.quoted path), ("bytes", toString bytes)]⟩

/-- A text in a style, if there is colour. -/
def styled (color : Bool) (style text : String) : String :=
  if color then style ++ text ++ Style.reset else text

/-- **A line of the log in writing.** -/
def LogLine.render (color : Bool) (l : LogLine) : String :=
  let dim := Style.start "2"
  let value := fun (name, text) =>
    " " ++ styled color (Style.start "3") name ++ styled color dim "=" ++ text
  styled color l.level.style l.level.name ++ " " ++ styled color dim l.source ++
    styled color dim ":" ++ " " ++ l.message ++ String.join (l.values.map value) ++ "\n"

end OfflineManifest
