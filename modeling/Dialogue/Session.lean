import Dialogue.Client.Basic
import Dialogue.Journal.Basic
import Dialogue.Server.Connection
import Dialogue.Settings.Document

/-!
# Dialogue.Session — settings in use and the default client

A session finds settings in files and keeps the settings that it loaded last. They are used again
while the path is the same and the file was not written since; the caller may ask for new ones.

* The path is the caller's, else that of an environment variable, else a fixed one.
* A file that is not there means default settings; a path below a file is refused.
* Loading applies what the settings say about the journal; settings that the journal refuses are not
  kept.
* The default client is made from loaded settings when it is asked for first.
-/

namespace Dialogue

/-- Settings that were loaded, and which settings they are. -/
structure Session.Loaded where
  id : Nat
  settings : Settings
deriving Repr

/-- Settings that are kept, and the file that they came from. -/
structure Session.Kept where
  path : String
  /-- When the file was written; none for a file that was not there. -/
  stamp : Option File.Stamp
  loaded : Session.Loaded
deriving Repr

/-- The default client, and which client it is. -/
structure Session.DefaultClient where
  id : Nat
  client : Client
  /-- Whether the session made the client. -/
  isOwn : Bool

/-- The state of a session. -/
structure Session where
  files : File.Store := {}
  /-- The value of the environment variable that names the file of settings. -/
  pathVariable : Option String := none
  kept : Option Session.Kept := none
  /-- How many settings were made. -/
  settingsMade : Nat := 0
  defaultClient : Option Session.DefaultClient := none
  /-- How many default clients there were. -/
  clientsMade : Nat := 0
  journal : Journal := {}

namespace Session

def settingsSource : String := "localfm.config.settings"

def note (level : Journal.Level) (message : String) : Journal.Note :=
  ⟨level, settingsSource, message, .caller []⟩

/-- The session with a note written to its journal. -/
def tell (n : Journal.Note) (s : Session) : Session := { s with journal := s.journal.note n }

/-! ## Settings -/

/-- The path of settings when none is given. -/
def defaultPath : String := "config.yaml"

/-- The first of two texts that is not empty. -/
def orText (a : Option String) (b : String) : String :=
  match a with
  | some text => if text = "" then b else text
  | none => b

/-- The path of settings, in normal form. -/
def settingsPath (given : Option String) (s : Session) : String :=
  File.normalPath (orText given (orText s.pathVariable defaultPath))

/-- The settings at a path as the files are now. -/
def settingsAt (path : String) (files : File.Store) : Except Fault Settings :=
  if (files.find? path).isNone && !files.isFolder path then .ok {} else Settings.ofFile path files

/-- Whether what is kept came from a path, and from the file that is there now. No settings come
from a folder. -/
def Kept.isFor (path : String) (files : File.Store) (k : Kept) : Bool :=
  k.path == path && k.stamp == files.stamp? path && !files.isFolder path

/-- The settings that are kept, if they are those of a path. -/
def kept? (path : String) (s : Session) : Option Loaded :=
  (s.kept.filter (·.isFor path s.files)).map (·.loaded)

/-- Applies what settings say about the journal. -/
def applySettings (settings : Settings) (s : Session) : Session × Except Fault Unit :=
  let (journal, r) := s.journal.applySettings settings.journalMembers
  ({ s with journal }, (discard r).mapError .journal)

/-- Tells that default settings are used, if there is no file at a path. -/
def tellMissing (path : String) (s : Session) : Session :=
  if (s.files.find? path).isSome || s.files.isFolder path then s
  else s.tell (note .warning s!"配置文件不存在: {path}，将使用默认配置。")

/-- Loads the settings at a path anew. -/
def loadNew (path : String) (keep : Bool) (s : Session) : Session × Except Fault Loaded :=
  let s := s.tellMissing path
  match settingsAt path s.files with
  | .error e => (s, .error e)
  | .ok settings =>
    let loaded : Loaded := ⟨s.settingsMade, settings⟩
    let s := { s with settingsMade := s.settingsMade + 1 }
    match s.applySettings settings with
    | (s, .error e) => (s, .error e)
    | (s, .ok ()) =>
      let kept : Kept := ⟨path, s.files.stamp? path, loaded⟩
      (if keep then { s with kept := some kept } else s, .ok loaded)

/-- Loads settings: the ones that are kept if the caller allows it and they are current. -/
def load (given : Option String) (useKept : Bool) (s : Session) : Session × Except Fault Loaded :=
  let path := s.settingsPath given
  if s.files.isBelowFile path then (s, .error (.file (.notFolder path)))
  else
    match if useKept then s.kept? path else none with
    | some loaded => (s.tell (note .debug s!"配置缓存命中: {path}"), .ok loaded)
    | none => s.loadNew path useKept

/-! ## The default client -/

/-- Makes a client the default. -/
def setDefault (client : Client) (isOwn : Bool) (s : Session) : Session × DefaultClient :=
  let made : DefaultClient := ⟨s.clientsMade, client, isOwn⟩
  ({ s with defaultClient := some made, clientsMade := s.clientsMade + 1 }, made)

/-- Forgets the default client. -/
def resetDefault (s : Session) : Session := { s with defaultClient := none }

/-- The default client, and the connection that was made for it now. -/
def getDefault (server : Server) (s : Session) :
    Session × Except Fault (DefaultClient × Option Connection) :=
  match s.defaultClient with
  | some made => (s, .ok (made, none))
  | none =>
    match s.load none true with
    | (s, .error e) => (s, .error e)
    | (s, .ok loaded) =>
      match Connection.make loaded.settings.runtime server with
      | .error e => (s, .error e)
      | .ok c =>
        let (s, made) := s.setDefault { model := c.model, settings := loaded.settings } true
        (s.tell (Client.note .info s!"默认客户端已创建: model={made.client.modelName}"),
          .ok (made, some c))

end Session

end Dialogue
