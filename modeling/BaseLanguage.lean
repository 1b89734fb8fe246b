import BaseLanguage.Main
import BaseLanguage.Proofs.FileName
import BaseLanguage.Storage.Listing
import BaseLanguage.Proofs.Rewriting.Precision
import BaseLanguage.Proofs.Fact.Indexes
import BaseLanguage.Proofs.Fact.Redeclaration
import BaseLanguage.Proofs.Processor.Frame
import BaseLanguage.Proofs.Placeholder
import BaseLanguage.Proofs.Spelling
import BaseLanguage.Proofs.Declaration
import BaseLanguage.Proofs.Ownership
import BaseLanguage.Proofs.Term.Faults
