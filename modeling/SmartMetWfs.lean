import SmartMetWfs.AdHoc.CartesianProduct
import SmartMetWfs.AdHoc.Declarations
import SmartMetWfs.AdHoc.FilterTrace
import SmartMetWfs.AdHoc.Literals
import SmartMetWfs.AdHoc.ParameterCounts
import SmartMetWfs.AdHoc.RequestChildren
import SmartMetWfs.AdHoc.WholeSteps
import SmartMetWfs.BStream.ExactNumbers
import SmartMetWfs.BStream.Representation
import SmartMetWfs.Capabilities.Listings
import SmartMetWfs.Capabilities.Responses
import SmartMetWfs.Handlers.ContourLeaves
import SmartMetWfs.Handlers.EpochLimits
import SmartMetWfs.Handlers.FacilityQuery
import SmartMetWfs.Handlers.FeatureById
import SmartMetWfs.Handlers.FlashBlocks
import SmartMetWfs.Handlers.ForecastStations
import SmartMetWfs.Handlers.GridAccesses
import SmartMetWfs.Handlers.GridParameters
import SmartMetWfs.Handlers.GridRows
import SmartMetWfs.Handlers.GridShape
import SmartMetWfs.Handlers.ItemHistory
import SmartMetWfs.Handlers.ItemResults
import SmartMetWfs.Handlers.LayerNames
import SmartMetWfs.Handlers.MastPartition
import SmartMetWfs.Handlers.ModelTimes
import SmartMetWfs.Handlers.NuclideCodes
import SmartMetWfs.Handlers.ObservationColumns
import SmartMetWfs.Handlers.ResolvedParameters
import SmartMetWfs.Handlers.SiteLookups
import SmartMetWfs.Handlers.SizeCheck
import SmartMetWfs.Handlers.SoundingLevels
import SmartMetWfs.Handlers.TimeOptions
import SmartMetWfs.Handlers.WinterProbabilities
import SmartMetWfs.Parameters.ConflictCheck
import SmartMetWfs.Parameters.Declarations
import SmartMetWfs.Parameters.IntegerTexts
import SmartMetWfs.Parameters.LetterCase
import SmartMetWfs.Parameters.TypeDefinitions
import SmartMetWfs.Plugin.Reloads
import SmartMetWfs.Plugin.Stops
import SmartMetWfs.QueryMap.Completeness
import SmartMetWfs.QueryMap.FailedLoad
import SmartMetWfs.QueryMap.InitialLoad
import SmartMetWfs.Request.OutputFormats
import SmartMetWfs.Request.RequestFactory
import SmartMetWfs.Request.SafeResponses
import SmartMetWfs.Request.SingleQuery
import SmartMetWfs.Request.ValuePages
import SmartMetWfs.Templates.ParamDefinitions
import SmartMetWfs.Templates.Subst
import SmartMetWfs.Templates.UrlSeparator
import SmartMetWfs.Xml.GmlEnvelope
import SmartMetWfs.Xml.SchemaMerges
