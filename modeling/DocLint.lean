import DocLint.Main
import DocLint.Proofs.CodeBlocks
import DocLint.Proofs.Config
import DocLint.Proofs.ExitCode
import DocLint.Proofs.Margins
import DocLint.Proofs.Pool
import DocLint.Proofs.Properties.Concat
import DocLint.Proofs.Properties.RoundTrip
import DocLint.Proofs.Required
import DocLint.Proofs.Routes
import DocLint.Proofs.Slices
import DocLint.Proofs.Spacing
import DocLint.Proofs.Blank
import DocLint.Proofs.Progress
import DocLint.Proofs.Setup
import DocLint.Proofs.Defaults
import DocLint.Proofs.Extended
import DocLint.Proofs.NewConfig
import DocLint.Proofs.Words
import DocLint.Proofs.Markdown.CodeLines
import DocLint.Proofs.EntryList
