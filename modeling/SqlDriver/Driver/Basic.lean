/-
# SqlDriver.Driver.Basic -- environments, connections and cursors

An environment holds settings and opens connections; a connection runs statements; a
cursor hands out the rows of one.  Programs share these objects: every object counts
its holders, and goes when the last one lets go of it.  A cursor is a holder of its
connection.  A connection counts the cursors whose statements are still there.
-/
import SqlDriver.Config
import SqlDriver.Engine.Step
import SqlDriver.Event

namespace SqlDriver

set_option autoImplicit false

/-- What is known of a driver. -/
structure DriverInfo where
  name : String
  description : String
  version : String
  copyright : String
  /-- The version of the database engine. -/
  engineVersion : String
deriving DecidableEq, Repr

namespace DriverInfo

def sqlite3 : DriverInfo where
  name := "sqlite3"
  description := "naml SQL driver for SQLite3"
  version := "0.1.0"
  copyright := "Copyright (C) naml contributors, MIT licensed"
  engineVersion := "3.45.0"

def all : List DriverInfo := [sqlite3]

def find? (name : String) : Option DriverInfo :=
  all.find? fun d => d.name = name

def summary (d : DriverInfo) : String :=
  d.description ++ " " ++ d.version ++ " (SQLite " ++ d.engineVersion ++ "). " ++ d.copyright

end DriverInfo

/-- An environment. -/
structure Environment where
  config : Config
  closed : Bool := false
deriving DecidableEq, Repr

/-- A connection. -/
structure Connection where
  /-- The engine's session; none once the connection is closed. -/
  session : Option Nat
  /-- The environment that it came from. -/
  environment : Nat
  /-- It keeps its environment alive, which it does until it is closed. -/
  keepsEnvironment : Bool := true
  /-- Every statement is a transaction of its own. -/
  autocommit : Bool := true
  /-- The number of cursors whose statements are still there. -/
  openCursors : Nat := 0
  holders : Nat := 1
deriving DecidableEq, Repr

/-- A cursor. -/
structure Cursor where
  /-- The engine's statement; none once the cursor is closed. -/
  run : Option Nat
  names : List String
  types : List (Option String)
  connection : Nat
  holders : Nat := 1
deriving DecidableEq, Repr

/-- All objects and databases. -/
structure State where
  world : Engine.World := {}
  environments : Pool Environment := {}
  connections : Pool Connection := {}
  cursors : Pool Cursor := {}
  /-- What happened, the latest first. -/
  events : List Event := []

/-- An operation.  What was done before an error stays done. -/
abbrev Op := ExceptT Error (StateM State)

namespace Op

def tell (e : Event) : Op Unit :=
  modify fun s => { s with events := e :: s.events }

def engine {α : Type} (a : Engine.Action α) : Op (Except Fault α) := do
  let s ← get
  let (r, world) := StateT.run (ExceptT.run a) s.world
  set { s with world }
  return r

def updateConnection (c : Nat) (f : Connection → Connection) : Op Unit :=
  modify fun s => { s with connections := s.connections.modify c f }

def updateCursor (k : Nat) (f : Cursor → Cursor) : Op Unit :=
  modify fun s => { s with cursors := s.cursors.modify k f }

end Op

/-! ## Environments -/

namespace Environment

def create (config : Config) : Op Nat := do
  let s ← get
  let (e, environments) := s.environments.insert { config }
  set { s with environments }
  return e

def openNamed (driver : String) (config : Config) : Op Nat := do
  match DriverInfo.find? driver with
  | some _ => create config
  | none => throw (.unknownDriver driver)

/-- Closes an environment; false if it was closed before. -/
def close (e : Nat) : Op Bool := do
  match (← get).environments.get? e with
  | none => return false
  | some env =>
      if env.closed then return false
      modify fun s => { s with
        environments := s.environments.modify e fun env => { env with closed := true } }
      Op.tell .environmentClosed
      return true

/-- What connecting comes to. -/
inductive Connected where
  | connection (c : Nat)
  /-- The timeout is longer than the engine can wait, which ends the program. -/
  | crashed
deriving DecidableEq, Repr

def longestTimeout : Nat := 2147483647

/-- The way in which an environment opens databases. -/
def openMode (c : Config) : Engine.OpenMode :=
  if c.readOnly then .readOnly else if c.create then .create else .readWrite

/-- Connects to the database of a source.  The timeout is the one given, or else the one
of the settings. -/
def connect (e : Nat) (source : String) (timeout : Option Nat) : Op Connected := do
  let s ← get
  match s.environments.get? e with
  | none => throw .environmentClosed
  | some env =>
      if env.closed then throw .environmentClosed
      match ← Op.engine (Engine.Action.connect (openMode env.config) source) with
      | .error fault => throw (.engine fault)
      | .ok session =>
          let wait := timeout.orElse fun _ => env.config.busyTimeout
          if wait.any (longestTimeout < ·) then
            let _ ← Op.engine (Engine.Action.disconnect session)
            return .crashed
          let _ ← Op.engine (Engine.Action.setTimeout session wait)
          Op.tell (.connectionOpened source timeout)
          let s ← get
          let (c, connections) :=
            s.connections.insert { session := some session, environment := e }
          set { s with connections }
          return .connection c

end Environment

end SqlDriver
