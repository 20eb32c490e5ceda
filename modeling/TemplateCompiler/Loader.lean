import TemplateCompiler.Path.Basic

/-! # Where templates are read from

A `Loader` answers three questions about paths, in a monad of the caller's choice: a set
of texts in memory answers at once, the files of a machine answer with effects. A
`MemoryStore` is such a set of texts.
-/

namespace TemplateCompiler

/-- Access to the texts of templates. -/
structure Loader (m : Type → Type) where
  isFile : String → m Bool
  isDirectory : String → m Bool
  /-- The text at a path, or why there is none. -/
  read : String → m (Except String String)

/-- Texts in memory, each at a path. -/
structure MemoryStore where
  entries : List (String × String) := []
  /-- Paths whose texts cannot be read. -/
  locked : List String := []

namespace MemoryStore

/-- The entry at a path. -/
def find? (store : MemoryStore) (path : String) : Option (String × String) :=
  store.entries.find? fun entry => Path.same entry.1 path

/-- The store with a text at a path, in place of one that was there. -/
def insert (store : MemoryStore) (path text : String) : MemoryStore :=
  match store.find? path with
  | none => { store with entries := store.entries ++ [(path, text)] }
  | some _ =>
    { store with
      entries := store.entries.map fun entry =>
        if Path.same entry.1 path then (entry.1, text) else entry }

/-- The store with several texts inserted in order. -/
def insertAll (store : MemoryStore) (files : List (String × String)) : MemoryStore :=
  files.foldl (fun store file => store.insert file.1 file.2) store

/-- Whether a text is stored at a path. -/
def isFile (store : MemoryStore) (path : String) : Bool := (store.find? path).isSome

/-- Whether a text is stored within a path, but not at it. -/
def isDirectory (store : MemoryStore) (path : String) : Bool :=
  store.entries.any fun entry => !Path.same entry.1 path && Path.isWithin entry.1 path

/-- The text stored at a path. -/
def read (store : MemoryStore) (path : String) : Except String String :=
  if store.locked.any (Path.same · path) then .error "unreadable"
  else
    match store.find? path with
    | some entry => .ok entry.2
    | none => .error (path ++ " is not loaded")

/-- The store as a loader. -/
def loader (store : MemoryStore) : Loader Id where
  isFile path := store.isFile path
  isDirectory path := store.isDirectory path
  read path := store.read path

end MemoryStore

end TemplateCompiler
