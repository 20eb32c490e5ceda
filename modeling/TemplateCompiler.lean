import TemplateCompiler.Main
import TemplateCompiler.Reader
import TemplateCompiler.Proofs.Parsing.Edits
import TemplateCompiler.Proofs.Parsing.Runs
import TemplateCompiler.Proofs.Parsing.Passages
import TemplateCompiler.Proofs.Identities
import TemplateCompiler.Proofs.Text.Cutting
import TemplateCompiler.Proofs.Path.Segments
import TemplateCompiler.Proofs.Path.NormalForm
import TemplateCompiler.Proofs.Path.Confined
import TemplateCompiler.Proofs.Resolution
import TemplateCompiler.Proofs.Parsing.Records
import TemplateCompiler.Proofs.Confinement
import TemplateCompiler.Proofs.Markup.Reading
import TemplateCompiler.Proofs.Markup.Tokens
import TemplateCompiler.Proofs.Markup.Bodies
import TemplateCompiler.Proofs.Markup.Literals
import TemplateCompiler.Proofs.Markup.Openings
import TemplateCompiler.Proofs.Markup.Closings
import TemplateCompiler.Proofs.Markup.Agreement
import TemplateCompiler.Proofs.Markup.Sections
import TemplateCompiler.Proofs.Markup.NamesAndPaths
import TemplateCompiler.Proofs.Markup.Following
import TemplateCompiler.Proofs.Markup.History
import TemplateCompiler.Proofs.Functions
import TemplateCompiler.Proofs.CodeBlocks
import TemplateCompiler.Proofs.Parsing.Failures
import TemplateCompiler.Proofs.Depth
import TemplateCompiler.Proofs.Markup.Effects
import TemplateCompiler.Proofs.Places
import TemplateCompiler.Proofs.ErrorPlaces
import TemplateCompiler.Proofs.Manifest
import TemplateCompiler.Proofs.Markup.Declarations
import TemplateCompiler.Proofs.Reproduction
import TemplateCompiler.Proofs.Dependencies.Spelling
import TemplateCompiler.Proofs.Dependencies.Names
import TemplateCompiler.Proofs.Dependencies.Inherited
import TemplateCompiler.Proofs.Dependencies.Repetitions
import TemplateCompiler.Proofs.Text.Parts
import TemplateCompiler.Proofs.Inlining
import TemplateCompiler.Proofs.EngineDetection
import TemplateCompiler.Proofs.DefaultEngine
import TemplateCompiler.Proofs.EngineBinding
import TemplateCompiler.Proofs.JavaUnits
import TemplateCompiler.Proofs.Markup.Splicing
import TemplateCompiler.Proofs.Comparisons.Drafts
import TemplateCompiler.Proofs.Comparisons.Includes
import TemplateCompiler.Proofs.Comparisons.FreshNames
import TemplateCompiler.Proofs.NameOrder
import TemplateCompiler.Proofs.Comparisons.Shifted
import TemplateCompiler.Proofs.Dependencies.Order
import TemplateCompiler.Proofs.Dependencies.Readable
import TemplateCompiler.Proofs.Comparisons.Renamed
import TemplateCompiler.Proofs.Comparisons.Swapped
import TemplateCompiler.Proofs.IncludeOrder
import TemplateCompiler.Proofs.Dependencies.Union
import TemplateCompiler.Proofs.Markup.Escapes
import TemplateCompiler.Proofs.Escaping
import TemplateCompiler.Proofs.Comparisons.Alike
import TemplateCompiler.Proofs.Comparisons.Lockstep
import TemplateCompiler.Proofs.Comments
import TemplateCompiler.Proofs.Dependencies.Refusals
import TemplateCompiler.Proofs.Comparisons.Filtered
import TemplateCompiler.Proofs.LineBreaks
import TemplateCompiler.Proofs.Literals.Strings
import TemplateCompiler.Proofs.Literals.VisualBasic
import TemplateCompiler.Proofs.Path.Canonical
import TemplateCompiler.Proofs.HelperCalls
import TemplateCompiler.Proofs.Path.Composition
import TemplateCompiler.Proofs.IncludeChains
import TemplateCompiler.Proofs.Path.WalkingOut
import TemplateCompiler.Proofs.Path.Parents
import TemplateCompiler.Proofs.Siblings
import TemplateCompiler.Proofs.WriteOnce
import TemplateCompiler.Proofs.Fingerprints
import TemplateCompiler.Proofs.Readers
