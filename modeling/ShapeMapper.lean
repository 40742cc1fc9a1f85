import ShapeMapper.Main
import ShapeMapper.Proofs.Path.Beside
import ShapeMapper.Proofs.Path.Specifier
import ShapeMapper.Proofs.Declaration.Import
import ShapeMapper.Proofs.ImportBlock.Relocation
import ShapeMapper.Proofs.FileTree
import ShapeMapper.Proofs.Declaration.FileName
import ShapeMapper.Proofs.Session
import ShapeMapper.Proofs.Generator
import ShapeMapper.Proofs.Source.Bracketed
import ShapeMapper.Proofs.Source.Comment
import ShapeMapper.Proofs.Declaration.Written
import ShapeMapper.Proofs.Text.Name
import ShapeMapper.Proofs.Declaration.Member
import ShapeMapper.Proofs.Declaration.Word
import ShapeMapper.Proofs.Declaration.Body
import ShapeMapper.Proofs.Declaration.Statement
import ShapeMapper.Proofs.Declaration.Scan
import ShapeMapper.Proofs.Declaration.ExportList
import ShapeMapper.Proofs.Declaration.RoundTrip
import ShapeMapper.Proofs.Declaration.Entity
import ShapeMapper.Proofs.Job
import ShapeMapper.Proofs.Template.Render
import ShapeMapper.Proofs.Template.Bundled
import ShapeMapper.Proofs.Invariant
import ShapeMapper.Proofs.ImportBlock.Binding
import ShapeMapper.Proofs.ImportBlock.Origin
import ShapeMapper.Proofs.Plan.Bars
import ShapeMapper.Proofs.Plan.TypeExpr
import ShapeMapper.Proofs.Plan.Copied
import ShapeMapper.Proofs.ImportBlock.Coverage
import ShapeMapper.Proofs.Path.Below
import ShapeMapper.Proofs.Outcome
import ShapeMapper.Proofs.Project
import ShapeMapper.Proofs.Source.Lexeme
import ShapeMapper.Proofs.Registry
import ShapeMapper.Proofs.Declaration.Lines
import ShapeMapper.Proofs.Template.CustomMap
import ShapeMapper.Proofs.Pairs
import ShapeMapper.Proofs.Declaration.Heritage
import ShapeMapper.Proofs.Declaration.InterfaceFile
import ShapeMapper.Proofs.Declaration.Exported
import ShapeMapper.Proofs.Source.Prolonged
import ShapeMapper.Proofs.Declaration.Prolonged
import ShapeMapper.Proofs.Declaration.Nested
import ShapeMapper.Proofs.Path.Canonical
import ShapeMapper.Proofs.ImportBlock.Calls
import ShapeMapper.Proofs.Declaration.Layout
import ShapeMapper.Proofs.Plan.Preorder
import ShapeMapper.Proofs.Template.Guarded
import ShapeMapper.Proofs.ImportBlock.Specifier
import ShapeMapper.Proofs.ImportBlock.ReadBack
import ShapeMapper.Proofs.Plan.Product
import ShapeMapper.Proofs.Plan.Stripped
import ShapeMapper.Proofs.Plan.Widening
import ShapeMapper.Proofs.Source.CommentSpace
import ShapeMapper.Proofs.Declaration.Passage
import ShapeMapper.Proofs.Declaration.TemplateLiteral
import ShapeMapper.Proofs.Declaration.Constant
import ShapeMapper.Proofs.Declaration.TypeParameters
import ShapeMapper.Proofs.Declaration.LiteralUnion
import ShapeMapper.Proofs.Plan.TypeTerm
import ShapeMapper.Proofs.Plan.ReturnType
import ShapeMapper.Proofs.FirstOccurrence
import ShapeMapper.Proofs.Path.Absolute
import ShapeMapper.Proofs.Request.Resolution
import ShapeMapper.Proofs.Request.Acceptance
import ShapeMapper.Proofs.Declaration.Visibility
import ShapeMapper.Proofs.Text.Line
import ShapeMapper.Proofs.Template.MapperName
import ShapeMapper.Proofs.Text.Quoted
import ShapeMapper.Proofs.Plan.Access
import ShapeMapper.Proofs.Template.Key
import ShapeMapper.Proofs.Declaration.QuotedName
import ShapeMapper.Proofs.Declaration.ListedName
import ShapeMapper.Proofs.Plan.Absence
import ShapeMapper.Proofs.Source.Balance
import ShapeMapper.Proofs.Declaration.Place
import ShapeMapper.Proofs.Template.Use
