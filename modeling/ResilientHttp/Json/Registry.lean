import ResilientHttp.Json.Shape

/-!
# Documents of a package registry

The shapes of the documents that a package registry serves: a package with its version, a release
that may have been yanked, an index of releases, and a catalog of packages by name with an optional
total.
-/

set_option autoImplicit false

namespace ResilientHttp.Json.Registry

open Shape

/-- A package. -/
def package : Shape :=
  record "Package" [{ name := "name", shape := text }, { name := "version", shape := text }]

/-- A release. -/
def release : Shape :=
  record "Release" [{ name := "version", shape := text }, { name := "yanked", shape := flag }]

/-- An index of releases. -/
def index : Shape :=
  record "Index" [{ name := "releases", shape := list natural32 }]

/-- A catalog of packages. -/
def catalog : Shape :=
  record "Catalog"
    [{ name := "packages", shape := dictionary (list package) },
      { name := "total", shape := optional integer64, default := some .null }]

end ResilientHttp.Json.Registry
