import QueryGuard.Digest.Sha256
import QueryGuard.Json.Printer
import QueryGuard.Report

/-!
Drafts kept for a while. A draft is found again by the digest of its request and the schema it
was made for, so a change of the schema makes it unreachable. Entries live for `ttl` milliseconds
after they were stored; reading a stale one drops it, and storing sweeps out all that are stale.
-/

namespace QueryGuard.Draft

/-- What a key stands for: request and schema as compact JSON. -/
def keyText (request : String) (schema : Schema) : String :=
  Json.render (.obj [("request", request), ("schema", schema.toJson)])

def cacheKey (request : String) (schema : Schema) : String :=
  Sha256.hex (keyText request schema).toUTF8.toList

structure Entry where
  key : String
  sql : String
  storedAt : Nat

structure Cache where
  ttl : Nat
  entries : List Entry

namespace Cache

/-- Five minutes. -/
def defaultTtl : Nat := 300000

def empty (ttl : Nat) : Cache := ⟨ttl, []⟩

variable (c : Cache)

/-- An entry stored after `now` is not stale. -/
def isFresh (now : Nat) (e : Entry) : Bool := decide (now - e.storedAt ≤ c.ttl)

def entry? (key : String) : Option Entry := c.entries.find? (·.key == key)

def remove (key : String) : Cache := { c with entries := c.entries.filter (·.key != key) }

/-- The draft under a key as of `now`, and the cache without the entry if it was stale. -/
def getAt (key : String) (now : Nat) : Option String × Cache :=
  match c.entry? key with
  | none => (none, c)
  | some e => if c.isFresh now e then (some e.sql, c) else (none, c.remove key)

def setAt (key sql : String) (now : Nat) : Cache :=
  let kept := c.entries.filter fun e => c.isFresh now e && e.key != key
  { c with entries := ⟨key, sql, now⟩ :: kept }

def size : Nat := c.entries.length

end Cache

/-- Where drafts are kept: in a cache, or nowhere. -/
inductive Store where
  | nowhere
  | memory (cache : Cache)

namespace Store

def getAt (s : Store) (key : String) (now : Nat) : Option String × Store :=
  match s with
  | nowhere => (none, nowhere)
  | memory cache =>
    let (found, cache) := cache.getAt key now
    (found, memory cache)

def setAt (s : Store) (key sql : String) (now : Nat) : Store :=
  match s with
  | nowhere => nowhere
  | memory cache => memory (cache.setAt key sql now)

end Store

end QueryGuard.Draft
