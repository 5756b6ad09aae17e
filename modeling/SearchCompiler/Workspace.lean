import SearchCompiler.Target

/-!
A workspace: indices that come and go, and named clients that compile for them. Every client looks
mappings up through a cache, which it may share with others; what a cache has kept stays as it was
fetched until it is told to forget it.
-/

namespace SearchCompiler

structure Client where
  target : Target
  cache : Nat

structure Workspace where
  indices : Dict FieldTable := .empty
  caches : List Cache := []
  clients : Dict Client := .empty
  requests : List String := []
  absence : String := "gone"

namespace Workspace

inductive CatalogChoice where
  | empty
  | standard
  | ofClient (name : String)

inductive Step where
  | setIndex (index : String) (fields : FieldTable)
  | dropIndex (index : String)
  | openClient (name index : String) (settings : Settings)
  | shareCache (name other : String)
  | setSettings (name : String) (settings : Settings)
  | setCatalog (name : String) (choice : CatalogChoice)
  | addBucket (name type : String) (method : Method)
  | invalidate (name index : String)
  | clear (name : String)
  | ask (name : String) (question : Question)
  | dataType (name path : String)

def provider (w : Workspace) : Provider := .ofTable w.absence w.indices

def cacheAt (w : Workspace) (number : Nat) : Cache := w.caches[number]?.getD .empty

def updateClient (w : Workspace) (name : String) (f : Client → Client) : Workspace :=
  match w.clients.get? name with
  | some c => { w with clients := w.clients.insert name (f c) }
  | none => w

def updateTarget (w : Workspace) (name : String) (f : Target → Target) : Workspace :=
  w.updateClient name fun c => { c with target := f c.target }

def updateCache (w : Workspace) (name : String) (f : Cache → Cache) : Workspace :=
  match w.clients.get? name with
  | some c => { w with caches := w.caches.modify c.cache f }
  | none => w

def catalogOf (w : Workspace) : CatalogChoice → Catalog
  | .empty => .empty
  | .standard => .standard
  | .ofClient name => ((w.clients.get? name).map fun c => c.target.catalog).getD .empty

def withMemory (w : Workspace) (name : String)
    (use : Target → Memory → Except Failure Answer × Memory) :
    Except Failure (Option Answer) × Workspace :=
  match w.clients.get? name with
  | none => (.ok none, w)
  | some c =>
    let (result, memory) := use c.target ⟨w.cacheAt c.cache, w.requests⟩
    (result.map some,
      { w with caches := w.caches.set c.cache memory.cache, requests := memory.requests })

def step (w : Workspace) : Step → Except Failure (Option Answer) × Workspace
  | .setIndex index fields => (.ok none, { w with indices := w.indices.insert index fields })
  | .dropIndex index => (.ok none, { w with indices := w.indices.erase index })
  | .openClient name index settings =>
    let c : Client := ⟨{ index, settings }, w.caches.length⟩
    (.ok none,
      { w with caches := w.caches ++ [.empty], clients := w.clients.insert name c })
  | .shareCache name other =>
    match w.clients.get? other with
    | some o => (.ok none, w.updateClient name fun c => { c with cache := o.cache })
    | none => (.ok none, w)
  | .setSettings name settings =>
    (.ok none, w.updateTarget name fun t => { t with settings })
  | .setCatalog name choice =>
    (.ok none, w.updateTarget name fun t => { t with catalog := w.catalogOf choice })
  | .addBucket name type method =>
    (.ok none, w.updateTarget name fun t => { t with catalog := t.catalog.addBucket type method })
  | .invalidate name index => (.ok none, w.updateCache name fun c => c.erase index)
  | .clear name => (.ok none, w.updateCache name fun _ => .empty)
  | .ask name q => w.withMemory name fun t m => t.ask w.provider m q
  | .dataType name path =>
    w.withMemory name fun t m =>
      let (type, m) := t.dataType w.provider m path
      (type.map .dataType, m)

end Workspace

end SearchCompiler
