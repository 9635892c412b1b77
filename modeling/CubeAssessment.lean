import CubeAssessment.Assessment.Session
import CubeAssessment.Configuration.Load
import CubeAssessment.Logging.Filter
import CubeAssessment.Proofs.Labeling.Cut
import CubeAssessment.Proofs.Labeling.Reading
import CubeAssessment.Proofs.Labeling.Tiling
import CubeAssessment.Proofs.Labeling.Cover
import CubeAssessment.Proofs.Labeling.Classification
import CubeAssessment.Proofs.Labeling.Normalization
import CubeAssessment.Proofs.Labeling.Defects
import CubeAssessment.Proofs.Labeling.Reordering
import CubeAssessment.Proofs.Collections.Ascending
import CubeAssessment.Proofs.Denotation
import CubeAssessment.Proofs.Collections.NameMap
import CubeAssessment.Proofs.Clauses
import CubeAssessment.Proofs.ClauseSets
import CubeAssessment.Proofs.Assessment.OrderIndependence
import CubeAssessment.Proofs.Collections.Faults
import CubeAssessment.Proofs.Text.Blank
import CubeAssessment.Proofs.Text.LowerCase
import CubeAssessment.Proofs.Assessment.Blame
import CubeAssessment.Proofs.Schema.Growth
import CubeAssessment.Proofs.Assessment.Growth
import CubeAssessment.Proofs.Schema.Cube
import CubeAssessment.Proofs.Schema.SharedIndex
import CubeAssessment.Proofs.Text.Separators
import CubeAssessment.Proofs.ClauseText
import CubeAssessment.Proofs.Labeling.Rows
import CubeAssessment.Proofs.Collections.Last
import CubeAssessment.Proofs.Assessment.CanonicalText
import CubeAssessment.Proofs.Assessment.History
import CubeAssessment.Proofs.Schema.Hierarchy
import CubeAssessment.Proofs.Schema.Indices
import CubeAssessment.Proofs.Schema.Offers
import CubeAssessment.Proofs.Catalog.Runs
import CubeAssessment.Proofs.Collections.Collector
import CubeAssessment.Proofs.Configuration.Catalog
import CubeAssessment.Proofs.Assessment.OwnName
import CubeAssessment.Proofs.Comparison.CanonicalDetails
import CubeAssessment.Proofs.Assessment.LabeledDeltas
import CubeAssessment.Proofs.Assessment.Events
import CubeAssessment.Proofs.Numeric.Grammar
import CubeAssessment.Proofs.Numeric.Overflow
import CubeAssessment.Proofs.Comparison.Judgement
import CubeAssessment.Proofs.Labeling.Bounds
import CubeAssessment.Proofs.Comparison.Delta
