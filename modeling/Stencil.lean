import Stencil.Engine.Builtins
import Stencil.Engine.Cache
import Stencil.Engine.Deferred
import Stencil.Engine.Loader
import Stencil.Proofs.Engine.Deferrals
import Stencil.Proofs.Engine.Waiting
import Stencil.Proofs.Expr.Evaluation
import Stencil.Proofs.Expr.PostfixOrder
import Stencil.Proofs.Expr.Colons
import Stencil.Proofs.Expr.Paths
import Stencil.Proofs.Inheritance.Streams
import Stencil.Value.Document
import Stencil.Proofs.Settings.Adjust
import Stencil.Proofs.Tree.Syntax
import Stencil.Proofs.Settings.Guarded
import Stencil.Proofs.Settings.Tandem
import Stencil.Proofs.Settings.Pairing
import Stencil.Proofs.Settings.State
import Stencil.Proofs.Settings.Within
import Stencil.Proofs.Settings.Expressions
import Stencil.Proofs.Settings.Nodes
import Stencil.Proofs.Settings.Templates
import Stencil.Proofs.Settings.Builtins
import Stencil.Proofs.Settings.Runs
import Stencil.Proofs.Settings.Texts
import Stencil.Proofs.Settings.Strict
import Stencil.Proofs.Settings.Rethrow
import Stencil.Proofs.Settings.Markup
import Stencil.Proofs.Inheritance.Parents
import Stencil.Proofs.Engine.Keeping
import Stencil.Proofs.Engine.Histories
import Stencil.Proofs.Inheritance.Cycles
import Stencil.Proofs.Engine.References
import Stencil.Proofs.Inheritance.Imports
import Stencil.Proofs.Engine.Caching
import Stencil.Proofs.Source.Closers
import Stencil.Proofs.Source.Strings
import Stencil.Proofs.Tree.Parsing
import Stencil.Proofs.Failures.Relay
import Stencil.Proofs.Failures.Expressions
import Stencil.Proofs.Failures.Nodes
import Stencil.Proofs.Failures.Origins
import Stencil.Proofs.Tree.Documents
import Stencil.Proofs.Inheritance.Frame
import Stencil.Proofs.Engine.Stored
import Stencil.Proofs.Inheritance.Resolution
import Stencil.Proofs.Scoping.Withs
import Stencil.Proofs.Scoping.Branches
import Stencil.Proofs.Scoping.Loops
import Stencil.Proofs.Scoping.Macros
import Stencil.Proofs.Engine.Refusals
import Stencil.Proofs.Inheritance.Renames
import Stencil.Proofs.Inheritance.BlockTags
import Stencil.Proofs.Tree.Keywords
import Stencil.Proofs.Tree.Lists
import Stencil.Proofs.Literals.Runs
import Stencil.Proofs.Value.Equality
import Stencil.Proofs.Value.Ranges
import Stencil.Proofs.Locator
import Stencil.Proofs.Text.Unescaped
import Stencil.Proofs.Expr.Names
import Stencil.Proofs.Expr.Inside
import Stencil.Proofs.Expr.Slices
