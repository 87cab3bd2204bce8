import TableIntake.Reader.Limited
import TableIntake.Reader.Streaming
import TableIntake.Upload.Catalogue
import TableIntake.Upload.Files
import TableIntake.Upload.Settings

/-! # Loaders

A loader reads uploads one after the other into its store, and registers each table that
was read to its end in its catalogue.
-/

namespace TableIntake

inductive Notice where
  | uploading (label dbName : String) (columns : Nat)
  | uploaded (label : String) (rows : Nat)
  | interrupted (label : String) (rows : Nat)
  | exceeded (quota : Quota)
  | parserFailed (fault : ParseFault)
deriving DecidableEq, Repr

/-- An upload with the moment when its table gets its name, and what its other threads
do meanwhile. -/
structure Arrival where
  upload : Upload
  moment : Int := 0
  schedule : List Turn := []

structure Loader where
  settings : Settings
  registry : Registry := .standard
  files : Files := []
  catalogue : Catalogue := .standard
  store : Store := {}
  notices : List Notice := []

namespace Loader

def create (settings : Settings) (catalogue : Catalogue) : Except UploadFault Loader :=
  if !settings.enabled then .error .disabled
  else if !Text.sameLetters catalogue.name Catalogue.requiredName then
    .error (.badSchema catalogue.name)
  else .ok { settings := settings, catalogue := catalogue }

def note (notice : Notice) (loader : Loader) : Loader :=
  { loader with notices := loader.notices ++ [notice] }

def start (arrival : Arrival) (loader : Loader) :
    Except UploadFault (LimitedReader StreamReader) :=
  let label := arrival.upload.label
  match arrival.upload.source loader.files with
  | .error message => .error (.unopened label message)
  | .ok source =>
      match loader.registry.get loader.settings.format with
      | .error fault => .error (.reading label fault)
      | .ok parser =>
          let stream := Stream.start (parser.steps source) loader.settings.isImpatient
          let reader : StreamReader := { stream := { stream with schedule := arrival.schedule } }
          .ok (.limit reader loader.settings.quota)

def noteEnd (reader : LimitedReader StreamReader) (loader : Loader) : Loader :=
  let loader := match reader.inner.stream.failure? with
    | some fault => loader.note (.parserFailed fault)
    | none => loader
  if reader.exceeded then loader.note (.exceeded reader.quota) else loader

/-- Loads the rows of a table whose columns are known. A stream that was cancelled gives
no table, however many rows came before. -/
def load (table : UploadedTable) (reader : LimitedReader StreamReader) (loader : Loader) :
    Except UploadFault UploadedTable × Loader :=
  let loader := loader.note (.uploading table.label table.dbName table.columns.length)
  let (loaded, reader, store) := loader.store.add table reader
  let cancelled := reader.inner.wasCancelled
  let loader := { loader with store := store }.noteEnd (TableReader.close reader)
  match loaded with
  | .error fault => (.error fault, loader)
  | .ok rows =>
      if cancelled then
        let loader := { loader with store := loader.store.discard table.dbName }
        (.error (.interrupted table.label rows), loader.note (.interrupted table.label rows))
      else
        (.ok { table with rows := rows }, loader.note (.uploaded table.label rows))

/-- The table of one upload, in the store but not in the catalogue. -/
def uploadOne (arrival : Arrival) (loader : Loader) : Except UploadFault UploadedTable × Loader :=
  match loader.start arrival with
  | .error fault => (.error fault, loader)
  | .ok reader =>
      let label := arrival.upload.label
      match TableReader.metadata reader with
      | (.error fault, reader) => (.error (.reading label fault), loader.noteEnd reader)
      | (.ok columns, reader) =>
          let table :=
            { label := label
              dbName := databaseName label arrival.moment
              columns := columns }
          loader.load table reader

def upload : List Arrival → Loader → Option UploadFault × Loader
  | [], loader => (none, loader)
  | arrival :: rest, loader =>
      match loader.uploadOne arrival with
      | (.error fault, loader) => (some fault, loader)
      | (.ok table, loader) =>
          upload rest { loader with catalogue := loader.catalogue.register table }

end Loader

end TableIntake
